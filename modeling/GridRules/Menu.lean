import GridRules.Document.Structure
import GridRules.Slot

/-!
# Context menus

A menu lists entries: names that the grid itself knows, and items with an action that a rule may
disable.
-/

namespace GridRules

/-- An item of a menu. -/
structure MenuItem where
  /-- The label. -/
  name : String
  /-- What the host does when the item is chosen. -/
  action : Option String
  /-- Whether the item is disabled. -/
  disabled : Slot Bool
  /-- The classes of the item. -/
  cssClasses : List String
deriving DecidableEq

/-- An entry of a menu. -/
inductive MenuEntry where
  /-- An entry that the grid itself knows. -/
  | builtIn (name : String)
  /-- An item with an action. -/
  | item (item : MenuItem)
deriving DecidableEq

/-- An entry as it is shown for a row. -/
inductive ResolvedEntry where
  /-- An entry that the grid itself knows. -/
  | builtIn (name : String)
  /-- An item, disabled or not. -/
  | item (name : String) (action : Option String) (disabled : Bool) (cssClasses : List String)
deriving DecidableEq

namespace MenuItem

/-- An item with nothing but a label. -/
def new (name : String) : MenuItem := ⟨name, none, .unset, []⟩

/-- Whether the item is disabled for a row. -/
def isDisabled (i : MenuItem) (row : Row) : Bool := i.disabled.resolveOr row false

/-- The fields of an item while it is decoded. -/
structure Draft where
  /-- The label. -/
  name : Option String
  /-- The action. -/
  action : Option (Option String)
  /-- Whether the item is disabled. -/
  disabled : Option (Slot Bool)
  /-- The classes. -/
  cssClasses : Option (List String)

/-- Takes a field into the draft. -/
def Draft.take (t : Draft) (name : String) (d : Document) : Except ReadError Draft :=
  match name with
  | "name" => (Document.once t.name Document.asText d).map fun x => { t with name := x }
  | "action" =>
    (Document.once t.action (Document.optional Document.asText) d).map
      fun x => { t with action := x }
  | "disabled" => (Document.once t.disabled Slot.decode d).map fun x => { t with disabled := x }
  | _ =>
    (Document.once t.cssClasses (Document.listOf Document.asText) d).map
      fun x => { t with cssClasses := x }

/-- The item that a document writes. -/
def decode (d : Document) : Except ReadError MenuItem :=
  match Document.structureOf ["name", "action", "disabled", "css_classes"] 0
      ⟨none, none, none, none⟩ Draft.take d with
  | .error e => .error e
  | .ok t =>
    (Document.required t.name).map fun name =>
      ⟨name, t.action.getD none, t.disabled.getD .unset, t.cssClasses.getD []⟩

/-- The item as an object. -/
def toValue (i : MenuItem) : Value :=
  .object [("action", Value.ofOption .string i.action),
    ("css_classes", Value.ofStrings i.cssClasses), ("disabled", i.disabled.toValue),
    ("name", .string i.name)]

end MenuItem

namespace MenuEntry

/-- The entry that a document writes: a name as a text, or an item as an object. -/
def decode (d : Document) : Except ReadError MenuEntry :=
  match d.toValue with
  | .error e => .error e
  | .ok (.string name) => .ok (.builtIn name)
  | .ok (.object fields) => (MenuItem.decode (Document.ofValue (.object fields))).map .item
  | .ok v => .error (.menuEntry v)

/-- The entry as a value. -/
def toValue : MenuEntry → Value
  | builtIn name => .string name
  | item i => i.toValue

/-- The entry as it is shown for a row. -/
def resolve (row : Row) : MenuEntry → ResolvedEntry
  | builtIn name => .builtIn name
  | item i => .item i.name i.action (i.isDisabled row) i.cssClasses

end MenuEntry

namespace ResolvedEntry

/-- The label of the entry. -/
def name : ResolvedEntry → String
  | builtIn name => name
  | item name _ _ _ => name

/-- Whether the entry is disabled; an entry of the grid itself never is. -/
def isDisabled : ResolvedEntry → Bool
  | builtIn _ => false
  | item _ _ disabled _ => disabled

/-- The entry as a value; classes are written only where there are any. -/
def toValue : ResolvedEntry → Value
  | builtIn name => .string name
  | item name action disabled cssClasses =>
    let classes := if cssClasses = [] then [] else [("cssClasses", Value.ofStrings cssClasses)]
    .object (("action", Value.ofOption .string action) :: classes
      ++ [("disabled", .bool disabled), ("name", .string name)])

end ResolvedEntry

/-- A menu: its entries in order. -/
abbrev Menu := List MenuEntry

namespace Menu

/-- The menu that a document writes. -/
def decode (d : Document) : Except ReadError Menu := Document.listOf MenuEntry.decode d

/-- The menu as it is shown for a row. -/
def resolve (menu : Menu) (row : Row) : List ResolvedEntry := menu.map (MenuEntry.resolve row)

/-- The menu as a list. -/
def toValue (menu : Menu) : Value := .array (menu.map MenuEntry.toValue)

end Menu

end GridRules
