import GridRules.Date.Notation
import GridRules.Json.Printer
import GridRules.Text.Split

/-!
# Date ranges

A cell holds date ranges as one text, with commas between the entries and a hyphen in spaces between
the bounds of an entry, or as a list of pairs of texts. `DateRange.ofValue` insists that every entry
can be read; `DateRange.readable` keeps the entries that can.
-/

namespace GridRules

/-- A range of days that includes both bounds. -/
structure DateRange where
  /-- The first day. -/
  first : Date
  /-- The last day. -/
  last : Date
deriving DecidableEq

/-- A list of results as the result of a list, the first error if there is one. -/
def collect {ε α : Type} : List (Except ε α) → Except ε (List α)
  | [] => .ok []
  | .error e :: _ => .error e
  | .ok a :: r => (collect r).map (a :: ·)

/-- The successes among results. -/
def successes {ε α : Type} (results : List (Except ε α)) : List α :=
  results.filterMap Except.toOption

namespace DateRange

/-- Whether a day lies in the range. -/
def contains (range : DateRange) (d : Date) : Bool := range.first ≤ d && d ≤ range.last

/-- What stands between the bounds of a range. -/
def boundSeparator : List Char := [' ', '-', ' ']

/-- A range of two bounds, the first one read first. -/
def ofBounds (first last : List Char) : Except DateError DateRange :=
  match Date.ofChars first with
  | .error e => .error e
  | .ok first => (Date.ofChars last).map (DateRange.mk first)

/-- The range of an entry: one bound for a single day, or two. -/
def ofEntry (entry : List Char) : Except DateError DateRange :=
  match Text.splitOnce boundSeparator entry with
  | none => (Date.ofChars entry).map fun d => ⟨d, d⟩
  | some (first, last) =>
    match Text.splitOnce boundSeparator last with
    | none => ofBounds first last
    | some _ => .error (.invalidRange (String.ofList (Text.trim entry)))

/-- The entries of a text: what stands between its commas and is not blank. -/
def entries (s : List Char) : List (List Char) := (s.splitOn ',').filter fun e => !Text.isBlank e

/-- The range of a pair of texts. -/
def ofPair (pair : Value) : Except DateError DateRange :=
  match pair with
  | .array [.string first, .string last] => ofBounds first.toList last.toList
  | v => .error (.invalidRange v.render)

/-- The results of the entries of a cell, one for each. Null has no entries, and any other value
that is neither a text nor a list is one entry that cannot be read. -/
def results : Value → List (Except DateError DateRange)
  | .null => []
  | .string s => (entries s.toList).map ofEntry
  | .array pairs => pairs.map ofPair
  | v => [.error (.invalidRange v.render)]

/-- The ranges of a text. -/
def ofText (text : String) : Except DateError (List DateRange) :=
  collect ((entries text.toList).map ofEntry)

/-- The ranges of a cell; one entry that cannot be read makes the whole cell unreadable. -/
def ofValue (v : Value) : Except DateError (List DateRange) := collect (results v)

/-- The ranges of a cell without the entries that cannot be read. -/
def readable (v : Value) : List DateRange := successes (results v)

end DateRange

end GridRules
