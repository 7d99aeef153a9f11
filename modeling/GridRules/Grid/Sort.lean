import GridRules.Grid.Basic

/-!
# Sorting rows

Rows are sorted by a column with a stable sort. Descending order turns the comparison around and not
the list, so rows that compare equal keep their order in both directions.
-/

namespace GridRules.Grid

/-- Whether a row may stand before another in a direction. -/
def inOrder (c : Column) (descending : Bool) (a b : Row) : Bool :=
  if descending then c.compareRows a b != .lt else c.compareRows a b != .gt

/-- The rows sorted by the first column of a field. -/
def sortRows (g : Grid) (rows : List Row) (field : String) (descending : Bool) :
    Except ConfigurationError (List Row) :=
  match g.column? field with
  | none => .error (.unknownSortColumn field)
  | some c => .ok (rows.mergeSort (inOrder c descending))

end GridRules.Grid
