import GridRules.Column.Wire
import GridRules.Grid.Basic

/-!
# Grids as documents

Decoding a grid from a document, and the object that a grid is written as.
-/

namespace GridRules

namespace ElementSettings

/-- The settings where nothing is configured. -/
def default : ElementSettings := ⟨false, false⟩

/-- The fields of the settings while they are decoded. -/
structure Draft where
  /-- Whether columns are sized after the first data. -/
  sizeToFit : Option Bool
  /-- Whether columns keep their size on scrolling. -/
  disableResize : Option Bool

/-- Takes a field into the draft. -/
def Draft.take (t : Draft) (name : String) (d : Document) : Except ReadError Draft :=
  match name with
  | "size_to_fit_after_first_data_rendered" =>
    (Document.once t.sizeToFit Document.asBool d).map fun x => { t with sizeToFit := x }
  | _ =>
    (Document.once t.disableResize Document.asBool d).map fun x => { t with disableResize := x }

/-- The settings that a document writes. -/
def decode (d : Document) : Except ReadError ElementSettings :=
  (Document.structureOf ["size_to_fit_after_first_data_rendered", "disable_resize_on_scroll"] 0
    ⟨none, none⟩ Draft.take d).map
    fun t => ⟨t.sizeToFit.getD false, t.disableResize.getD false⟩

/-- The settings as an object. -/
def toValue (s : ElementSettings) : Value :=
  .object [("disable_resize_on_scroll", .bool s.disableResizeOnScroll),
    ("size_to_fit_after_first_data_rendered", .bool s.sizeToFitAfterFirstDataRendered)]

end ElementSettings

namespace Grid

/-- The fields of a grid while it is decoded. -/
structure Draft where
  /-- The name. -/
  name : Option String
  /-- What the grid is for. -/
  description : Option String
  /-- The columns. -/
  columns : Option (List Column)
  /-- The classes of a row. -/
  rowClassRules : Option ClassRules
  /-- The context menu. -/
  contextMenu : Option Menu
  /-- The settings of the element. -/
  settings : Option ElementSettings

/-- The names of the fields in order. -/
def fieldNames : List String :=
  ["name", "description", "columns", "row_class_rules", "context_menu", "settings"]

/-- Takes a field into the draft. -/
def Draft.take (t : Draft) (name : String) (d : Document) : Except ReadError Draft :=
  match name with
  | "name" => (Document.once t.name Document.asText d).map fun x => { t with name := x }
  | "description" =>
    (Document.once t.description Document.asText d).map fun x => { t with description := x }
  | "columns" =>
    (Document.once t.columns (Document.listOf Column.decode) d).map
      fun x => { t with columns := x }
  | "row_class_rules" =>
    (Document.once t.rowClassRules ClassRules.decode d).map fun x => { t with rowClassRules := x }
  | "context_menu" =>
    (Document.once t.contextMenu Menu.decode d).map fun x => { t with contextMenu := x }
  | _ => (Document.once t.settings ElementSettings.decode d).map fun x => { t with settings := x }

/-- The grid of a draft; the name and the columns have to be there. -/
def Draft.finish (t : Draft) : Except ReadError Grid :=
  match Document.required t.name with
  | .error e => .error e
  | .ok name =>
    (Document.required t.columns).map fun columns =>
      ⟨name, t.description.getD "", columns, t.rowClassRules.getD .empty, t.contextMenu.getD [],
        t.settings.getD .default⟩

/-- The grid that a document writes. -/
def decode (d : Document) : Except ReadError Grid :=
  match Document.structureOf fieldNames 0 ⟨none, none, none, none, none, none⟩ Draft.take d with
  | .error e => .error e
  | .ok t => t.finish

/-- The grid as an object. -/
def toValue (g : Grid) : Value :=
  .object [("columns", .array (g.columns.map Column.toValue)),
    ("context_menu", g.contextMenu.toValue), ("description", .string g.description),
    ("name", .string g.name), ("row_class_rules", g.rowClassRules.toValue),
    ("settings", g.settings.toValue)]

end Grid

end GridRules
