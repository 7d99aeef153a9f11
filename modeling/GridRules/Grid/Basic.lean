import GridRules.Column.Basic
import GridRules.Menu

/-!
# Grids

The definition of a grid: its columns, the rules for whole rows, the context menu and the settings
of the element that shows it.
-/

namespace GridRules

/-- The settings of the element around a grid. -/
structure ElementSettings where
  /-- Whether columns are sized to fit once the first data is rendered. -/
  sizeToFitAfterFirstDataRendered : Bool
  /-- Whether columns keep their size when the body scrolls. -/
  disableResizeOnScroll : Bool
deriving DecidableEq

/-- The definition of a grid. -/
structure Grid where
  /-- The name of the grid. -/
  name : String
  /-- What the grid is for. -/
  description : String
  /-- The columns in order. -/
  columns : List Column
  /-- The classes of a row. -/
  rowClassRules : ClassRules
  /-- The context menu. -/
  contextMenu : Menu
  /-- The settings of the element. -/
  settings : ElementSettings
deriving DecidableEq

namespace Grid

/-- The first column of a field. -/
def column? (g : Grid) (field : String) : Option Column := g.columns.find? (·.field == field)

/-- The classes of a row, in ascending order. -/
def rowClasses (g : Grid) (row : Row) : List String := g.rowClassRules.applied row

/-- The menu as it is shown for a row. -/
def menuFor (g : Grid) (row : Row) : List ResolvedEntry := g.contextMenu.resolve row

/-- The fields of the columns whose cells on a row may be edited, in the order of the columns. -/
def editableFields (g : Grid) (row : Row) : List String :=
  (g.columns.filter (·.isEditable row)).map (·.field)

/-- The filter of the first column that has one, without a day. -/
def dateFilter? (g : Grid) : Option DateFilter := g.columns.findSome? Column.dateFilter?

end Grid

end GridRules
