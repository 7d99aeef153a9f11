import GridRules.ClassRules
import GridRules.Column.Basic
import GridRules.Column.Wire
import GridRules.CommandLine
import GridRules.Component.Cell
import GridRules.Component.Host
import GridRules.Component.Registry
import GridRules.Date.Basic
import GridRules.Date.Comparator
import GridRules.Date.Filter
import GridRules.Date.Notation
import GridRules.Date.Range
import GridRules.Decimal.Editor
import GridRules.Decimal.Format
import GridRules.Decimal.Settings
import GridRules.Dictionary
import GridRules.Document.Basic
import GridRules.Document.Plain
import GridRules.Document.Structure
import GridRules.Double.Basic
import GridRules.Double.Fixed
import GridRules.Double.Rounding
import GridRules.Double.Shortest
import GridRules.Element
import GridRules.Error
import GridRules.Expression.Basic
import GridRules.Expression.Evaluate
import GridRules.Expression.Fault
import GridRules.Expression.Parse
import GridRules.Grid.Basic
import GridRules.Grid.Load
import GridRules.Grid.Problem
import GridRules.Grid.Report
import GridRules.Grid.Sort
import GridRules.Grid.Wire
import GridRules.Json.Literal
import GridRules.Json.Printer
import GridRules.Json.Reader
import GridRules.Json.Value
import GridRules.Main
import GridRules.Menu
import GridRules.Numeral
import GridRules.Row
import GridRules.Slot
import GridRules.Text.CaseTables
import GridRules.Text.Digits
import GridRules.Text.Lowercase
import GridRules.Text.Split
import GridRules.Text.White
import GridRules.Value.Coercion
import GridRules.Value.Comparison
import GridRules.Yaml.Cursor
import GridRules.Yaml.Event
import GridRules.Yaml.Parser
import GridRules.Yaml.Reader
import GridRules.Yaml.Scalar
import GridRules.Yaml.Scanner
import GridRules.Yaml.Tag
import GridRules.Yaml.Token
import GridRules.Proofs.Expression.Position
import GridRules.Proofs.Expression.Language
import GridRules.Proofs.Expression.Reading
import GridRules.Proofs.Expression.FirstFault
import GridRules.Proofs.Expression.RoundTrip
import GridRules.Proofs.Expression.Evaluation
import GridRules.Proofs.Expression.Fields
import GridRules.Proofs.Grid.ReportFields
import GridRules.Proofs.Grid.SortedRows
import GridRules.Proofs.Grid.StableSort
import GridRules.Proofs.Slot.Loading
import GridRules.Proofs.Value.LooseEquality
import GridRules.Proofs.Value.NumberLiteral
import GridRules.Proofs.Value.SortOrder
import GridRules.Proofs.Value.Structure
import GridRules.Proofs.Expression.Formula
import GridRules.Proofs.Grid.EquivalentRules
import GridRules.Proofs.Value.EqualityAndOrder
import GridRules.Proofs.Column.RoundTrip
import GridRules.Proofs.Date.FilterRuns
import GridRules.Proofs.Grid.RoundTrip
import GridRules.Proofs.Date.Entries
import GridRules.Proofs.Text.Parts
import GridRules.Proofs.Date.Printed
import GridRules.Proofs.Date.DateText
import GridRules.Proofs.Date.FirstDate
import GridRules.Proofs.Double.Nearest
import GridRules.Proofs.Decimal.Reformat
import GridRules.Proofs.Decimal.Commit
import GridRules.Proofs.Decimal.Typing
import GridRules.Proofs.Element.HostCopy
import GridRules.Proofs.Grid.ReportParts
import GridRules.Proofs.Decimal.Locales
import GridRules.Proofs.Decimal.Precision
import GridRules.Proofs.Decimal.Rounded
import GridRules.Proofs.Component.SharedRegistry
import GridRules.Proofs.Decimal.Formattable
import GridRules.Proofs.Decimal.LeadingNumeral
import GridRules.Proofs.Decimal.CellNumeral
import GridRules.Proofs.Decimal.KeptDigits
import GridRules.Proofs.Decimal.Regrouping
import GridRules.Proofs.Decimal.CursorPlace
import GridRules.Proofs.Double.Ties
import GridRules.Proofs.Value.LiteralGrammar
import GridRules.Proofs.Date.DayNotations
import GridRules.Proofs.Date.ReplacedBound
import GridRules.Proofs.Date.RangeOrder
import GridRules.Proofs.Expression.MissingField
import GridRules.Proofs.Date.TextOrder
import GridRules.Proofs.Double.Shortest
import GridRules.Proofs.Value.DisplayedNumber
import GridRules.Proofs.Value.EqualLists
import GridRules.Proofs.Grid.IntegerColumns
import GridRules.Proofs.Grid.Problems
import GridRules.Proofs.Text.Lowercase
import GridRules.Proofs.Element.AttributeNames
import GridRules.Proofs.Decimal.ByteScan
