import GridRules.Error

/-!
# Components and their registry

A component is an application that cells mount by name. Its running instances talk through named
channels: they may take values in, and they may put values out. The states of the instances are of a
type that the host chooses.
-/

namespace GridRules

/-- A component with running instances in states of a type. -/
structure Component (σ : Type) where
  /-- The name under which it is registered. -/
  name : String
  /-- Starts an instance with the parameters of a cell. -/
  start : Value → Except ComponentError σ
  /-- Sends a value into a channel of an instance; `none` when it has no such channel. -/
  send : σ → String → Value → Option σ
  /-- Whether an instance puts out values on a channel. -/
  putsOut : σ → String → Bool

/-- The components that can be mounted. -/
abbrev Registry (σ : Type) := Dictionary (Component σ)

namespace Registry

variable {σ : Type}

/-- The registry with a component under its name; an earlier one of that name gives way. -/
def register (r : Registry σ) (c : Component σ) : Registry σ := r.insert c.name c

/-- The component of a name. -/
def find? (r : Registry σ) (name : String) : Option (Component σ) := r.get? name

/-- The component of a name, or an error without one. -/
def require (r : Registry σ) (name : String) : Except ComponentError (Component σ) :=
  match r.find? name with
  | some c => .ok c
  | none => .error (.notFound name)

/-- The registered names in ascending order. -/
def names (r : Registry σ) : List String := r.keys

end Registry

/-- The component that the parameters of a cell name. -/
def componentName (params : Value) : Except ComponentError String :=
  match params.field? "componentName" with
  | some (.string name) => if name = "" then .error .missingName else .ok name
  | _ => .error .missingName

/-- The value that the parameters of a cell carry, null when they carry none. -/
def startValue (params : Value) : Value := (params.field? "value").getD .null

/-- A running instance of a component. -/
structure Instance (σ : Type) where
  /-- The component. -/
  component : Component σ
  /-- The state of the instance. -/
  state : σ

/-- Starts an instance of the component that the parameters name. -/
def Instance.mount {σ : Type} (r : Registry σ) (params : Value) :
    Except ComponentError (String × Instance σ) :=
  match componentName params with
  | .error e => .error e
  | .ok name =>
    match r.require name with
    | .error e => .error e
    | .ok c => (c.start params).map fun state => (name, ⟨c, state⟩)

end GridRules
