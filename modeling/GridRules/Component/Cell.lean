import GridRules.Component.Registry

/-!
# Cells with components

A cell is rendered or edited by an instance of a component. A renderer hands new parameters on to
its instance; an editor keeps the last value that its instance put out.
-/

namespace GridRules

/-- The channel on which an instance takes new parameters. -/
def refreshChannel : String := "componentRefresh"

/-- The channel on which an instance puts out its value. -/
def valueChannel : String := "currentValue"

/-- A cell that an instance renders. -/
structure AppRenderer (σ : Type) where
  /-- The name of the component. -/
  componentName : String
  /-- The instance. -/
  mounted : Instance σ

namespace AppRenderer

variable {σ : Type}

/-- The renderer of a cell with the given parameters. -/
def mount (r : Registry σ) (params : Value) : Except ComponentError (AppRenderer σ) :=
  (Instance.mount r params).map fun (name, i) => ⟨name, i⟩

/-- The renderer after new parameters; an instance without the channel keeps its state. -/
def refresh (a : AppRenderer σ) (params : Value) : AppRenderer σ :=
  match a.mounted.component.send a.mounted.state refreshChannel params with
  | some state => { a with mounted := { a.mounted with state := state } }
  | none => a

/-- Whether a refresh spares the grid from rendering the cell anew; it always does. -/
def handlesRefresh : Bool := true

end AppRenderer

/-- A cell that an instance edits. -/
structure AppEditor (σ : Type) where
  /-- The name of the component. -/
  componentName : String
  /-- The instance. -/
  mounted : Instance σ
  /-- Whether the editor listens to what the instance puts out. -/
  listening : Bool
  /-- The value that the grid gets at the end. -/
  value : Value

namespace AppEditor

variable {σ : Type}

/-- The editor of a cell with the given parameters. It starts from the value they carry, and listens
if the instance has the channel. -/
def mount (r : Registry σ) (params : Value) : Except ComponentError (AppEditor σ) :=
  (Instance.mount r params).map fun (name, i) =>
    ⟨name, i, i.component.putsOut i.state valueChannel, startValue params⟩

/-- The editor after its instance put out a value. -/
def publish (a : AppEditor σ) (v : Value) : AppEditor σ :=
  if a.listening then { a with value := v } else a

/-- Whether the editor floats above the cell. -/
def isPopup : Bool := true

end AppEditor

/-- The editor of a boolean cell. Its checkbox has written the new value already, so it keeps the
value and is done. -/
structure BooleanEditor where
  /-- The value that the grid gets at the end. -/
  value : Value
deriving DecidableEq

namespace BooleanEditor

/-- The editor of a cell with the given parameters. -/
def start (params : Value) : BooleanEditor := ⟨startValue params⟩

/-- Whether the editor floats above the cell. -/
def isPopup : Bool := true

/-- Whether editing ends as soon as it starts. -/
def stopsEditing : Bool := true

end BooleanEditor

end GridRules
