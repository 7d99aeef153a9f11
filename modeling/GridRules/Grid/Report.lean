import GridRules.Grid.Basic

/-!
# Row reports

Everything that the rules of a grid decide for one row.
-/

namespace GridRules

/-- What the rules decide for a row. -/
structure RowReport where
  /-- The fields whose cells may be edited. -/
  editable : List String
  /-- The classes of the cells that have any, by field. -/
  cellClasses : Dictionary (List String)
  /-- The classes of the row. -/
  rowClasses : List String
  /-- The labels of the disabled items of the menu. -/
  disabledMenuItems : List String
  /-- Whether the row passes the filter, where one is active. -/
  passesFilter : Option Bool
deriving DecidableEq

namespace Grid

/-- The report of a row. Of several columns of one field the last one with classes counts. -/
def report (g : Grid) (row : Row) (filter : Option DateFilter) : RowReport where
  editable := g.editableFields row
  cellClasses :=
    .ofList ((g.columns.map fun c => (c.field, c.cellClasses row)).filter fun e => !e.2.isEmpty)
  rowClasses := g.rowClasses row
  disabledMenuItems := ((g.menuFor row).filter (·.isDisabled)).map (·.name)
  passesFilter := (filter.filter (·.isActive)).map (·.passes row)

end Grid

/-- The report as an object with its fields in the order of the report. The filter is left out where
none is active. -/
def RowReport.toValue (r : RowReport) : Value :=
  let passes := match r.passesFilter with
    | some b => [("passes_filter", .bool b)]
    | none => []
  .object ([("editable", Value.ofStrings r.editable),
    ("cell_classes", .object (r.cellClasses.entries.map fun e => (e.1, Value.ofStrings e.2))),
    ("row_classes", Value.ofStrings r.rowClasses),
    ("disabled_menu_items", Value.ofStrings r.disabledMenuItems)] ++ passes)

end GridRules
