import GridRules.Grid.Basic

/-!
# Problems of a grid

What is wrong with a definition although it could be decoded: names that are missing or taken twice,
decimal places beyond what counts, and filters that read a field of no column.
-/

namespace GridRules

/-- A problem of a definition. -/
inductive Problem where
  /-- The grid has no name. -/
  | gridUnnamed
  /-- The grid has no columns. -/
  | noColumns
  /-- A column has no field. -/
  | emptyField
  /-- A column has the field of an earlier one. -/
  | duplicateField (field : String)
  /-- A column has more decimal places than count. -/
  | tooManyPlaces (field : String) (places : UInt64)
  /-- A component of a column has no name. -/
  | componentUnnamed (field : String)
  /-- The filter of a column reads a field of no column. -/
  | unknownRangeField (field rangeField : String)
deriving DecidableEq

/-- The wording of a problem. -/
def Problem.message : Problem → String
  | gridUnnamed => "Grid name must not be empty"
  | noColumns => "Grid has no columns"
  | emptyField => "Column with empty field"
  | duplicateField field => "Duplicate column field: " ++ field
  | tooManyPlaces field places =>
    "Column " ++ field ++ ": decimal_places " ++ String.ofList (Text.digits places.toNat)
      ++ " exceeds " ++ String.ofList (Text.digits maxDecimalPlaces)
  | componentUnnamed field => "Column " ++ field ++ ": component name is empty"
  | unknownRangeField field rangeField =>
    "Column " ++ field ++ ": filter range field " ++ rangeField ++ " is not a column"

/-- A problem where a condition holds, and none otherwise. -/
def problemIf (condition : Bool) (problem : Problem) : List Problem :=
  if condition then [problem] else []

namespace Column

/-- The problem of a component of the column. -/
def componentProblems (c : Column) : Option ComponentSpec → List Problem
  | some spec => problemIf (Text.isBlank spec.componentName.toList) (.componentUnnamed c.field)
  | none => []

/-- The problems of a column on its own, given the fields of the columns before it. -/
def problems (c : Column) (before : List String) : List Problem :=
  problemIf c.field.isEmpty .emptyField
    ++ problemIf (c.field ∈ before) (.duplicateField c.field)
    ++ (match c.decimal with
      | some s => problemIf (maxDecimalPlaces < s.places.toNat) (.tooManyPlaces c.field s.places)
      | none => [])
    ++ c.componentProblems c.renderer ++ c.componentProblems c.editor

/-- The problem of the filter of a column, given the fields of all columns. -/
def filterProblems (c : Column) (fields : List String) : List Problem :=
  match c.filter with
  | some (.dateRange (some rangeField)) =>
    problemIf (rangeField ∉ fields) (.unknownRangeField c.field rangeField)
  | _ => []

/-- The problems of columns on their own, after columns of the given fields. -/
def problemsAfter (before : List String) : List Column → List Problem
  | [] => []
  | c :: r => c.problems before ++ problemsAfter (c.field :: before) r

end Column

/-- The problems of a grid: of the grid, of the columns one after the other, then of
their filters. -/
def Grid.problems (g : Grid) : List Problem :=
  problemIf (Text.isBlank g.name.toList) .gridUnnamed
    ++ problemIf g.columns.isEmpty .noColumns
    ++ Column.problemsAfter [] g.columns
    ++ g.columns.flatMap (·.filterProblems (g.columns.map (·.field)))

end GridRules
