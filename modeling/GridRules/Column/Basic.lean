import GridRules.ClassRules
import GridRules.Date.Comparator
import GridRules.Date.Filter
import GridRules.Decimal.Settings

/-!
# Columns

A column shows one field of the rows. It says which cells may be edited, which classes they get, how
rows are ordered by it, and what mounts, filters and formats its cells.
-/

namespace GridRules

/-- A registered component and what it is given besides the cell. -/
structure ComponentSpec where
  /-- The name of the component. -/
  componentName : String
  /-- Further parameters. -/
  params : Option Value
deriving DecidableEq

/-- The filter of a column. -/
inductive FilterSpec where
  /-- Passes the rows whose date ranges contain the day of the filter. -/
  | dateRange (rangeField : Option String)
deriving DecidableEq

/-- A way to order rows other than by their values. -/
inductive Comparator where
  /-- By the first date of a range text. -/
  | dateTime
deriving DecidableEq

/-- A column of a grid. -/
structure Column where
  /-- The field that is shown. -/
  field : String
  /-- The label of the column, where it is not the field. -/
  headerName : Option String
  /-- Whether a cell may be edited. -/
  editable : Slot Bool
  /-- The classes of a cell. -/
  cellClassRules : ClassRules
  /-- What renders a cell. -/
  renderer : Option ComponentSpec
  /-- What edits a cell. -/
  editor : Option ComponentSpec
  /-- What filters the rows. -/
  filter : Option FilterSpec
  /-- What orders the rows, where it is not their values. -/
  comparator : Option Comparator
  /-- The decimal format of the cells. -/
  decimal : Option DecimalSettings
deriving DecidableEq

namespace Column

/-- A column of a field with nothing else configured. -/
def new (field : String) : Column :=
  ⟨field, none, .unset, .empty, none, none, none, none, none⟩

/-- The label of the column. -/
def header (c : Column) : String := c.headerName.getD c.field

/-- The value of the cell on a row. -/
def value? (c : Column) (row : Row) : Option Value := row.get? c.field

/-- Whether the cell on a row may be edited. -/
def isEditable (c : Column) (row : Row) : Bool := c.editable.resolveOr row false

/-- The classes of the cell on a row, in ascending order. -/
def cellClasses (c : Column) (row : Row) : List String := c.cellClassRules.applied row

/-- The order of two rows by the column; a missing field counts as null. -/
def compareRows (c : Column) (a b : Row) : Ordering :=
  let left := orNull (c.value? a)
  let right := orNull (c.value? b)
  match c.comparator with
  | some .dateTime => DateRange.compareTexts left.displayText right.displayText
  | none => left.sortOrder right

/-- The filter that the column is configured with, without a day. -/
def dateFilter? (c : Column) : Option DateFilter :=
  c.filter.map fun (.dateRange rangeField) => .new c.field rangeField

end Column

/-- The checkbox of a boolean cell. -/
structure Checkbox where
  /-- Whether it is checked. -/
  checked : Bool
  /-- Whether it cannot be clicked. -/
  disabled : Bool
deriving DecidableEq

namespace Checkbox

/-- The checkbox of a cell: checked by the truth of its value, disabled unless the cell may be
edited. -/
def ofCell (c : Column) (row : Row) : Checkbox :=
  ⟨truthyOperand (c.value? row), !c.isEditable row⟩

/-- The value that a click writes back. -/
def toggled (b : Checkbox) : Value := .bool !b.checked

end Checkbox

end GridRules
