import GridRules.Date.Range
import GridRules.Row

/-!
# The date filter of a column

A filter passes the rows whose ranges contain its day. It reads the ranges from its own column or
from another field, and passes every row while it has no day.
-/

namespace GridRules

/-- The name of the kind of filter in its model. -/
def dateFilterType : String := "dateRange"

/-- The state of a filter as the grid saves and restores it. -/
structure FilterModel where
  /-- The text of the day. -/
  filterDate : String
  /-- The kind of filter. -/
  filterType : String
deriving DecidableEq

/-- A filter on a column. -/
structure DateFilter where
  /-- The column. -/
  column : String
  /-- The field that holds the ranges, where it is not the column itself. -/
  rangeField : Option String
  /-- The day, if one is set. -/
  date : Option Date
deriving DecidableEq

namespace DateFilter

/-- A filter without a day. -/
def new (column : String) (rangeField : Option String) : DateFilter := ⟨column, rangeField, none⟩

/-- The field from which the ranges are read. -/
def field (f : DateFilter) : String := f.rangeField.getD f.column

/-- Whether a day is set. -/
def isActive (f : DateFilter) : Bool := f.date.isSome

/-- Removes the day. -/
def clear (f : DateFilter) : DateFilter := { f with date := none }

/-- Sets the day that a text writes; no text, or blank text, removes it. -/
def setDate (f : DateFilter) (input : Option String) : Except DateError DateFilter :=
  match input with
  | none => .ok f.clear
  | some text =>
    if Text.isBlank text.toList then .ok f.clear
    else (Date.ofText text).map fun d => { f with date := some d }

/-- The model of a filter with a day. -/
def model? (f : DateFilter) : Option FilterModel :=
  f.date.map fun d => ⟨d.toText, dateFilterType⟩

/-- Restores the day of a model; without a model everything stays. -/
def restore (f : DateFilter) (model : Option FilterModel) : Except DateError DateFilter :=
  match model with
  | none => .ok f
  | some m => f.setDate (some m.filterDate)

/-- Whether a row passes. A row without the field passes only a filter without a day. -/
def passes (f : DateFilter) (row : Row) : Bool :=
  match f.date with
  | none => true
  | some d =>
    match row.get? f.field with
    | none => false
    | some v => (DateRange.readable v).any (·.contains d)

end DateFilter

namespace FilterModel

/-- The fields of a model while it is decoded. -/
structure Draft where
  /-- The text of the day. -/
  filterDate : Option String
  /-- The kind of filter. -/
  filterType : Option String

/-- Takes a field into the draft. -/
def Draft.take (draft : Draft) (name : String) (d : Document) : Except ReadError Draft :=
  match name with
  | "filterDate" =>
    (Document.once draft.filterDate Document.asText d).map fun x => { draft with filterDate := x }
  | _ =>
    (Document.once draft.filterType Document.asText d).map fun x => { draft with filterType := x }

/-- The model that a document writes. -/
def decode (d : Document) : Except ReadError FilterModel := do
  let draft ← Document.structureOf ["filterDate", "filterType"] 0 ⟨none, none⟩ Draft.take d
  return ⟨← Document.required draft.filterDate, ← Document.required draft.filterType⟩

/-- The model as an object. -/
def toValue (m : FilterModel) : Value :=
  .object [("filterDate", .string m.filterDate), ("filterType", .string m.filterType)]

end FilterModel

end GridRules
