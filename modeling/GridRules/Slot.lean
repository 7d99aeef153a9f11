import GridRules.Document.Basic
import GridRules.Expression.Evaluate

/-!
# Slots

A slot of the configuration holds a fixed value or an expression that is computed per row. The shape
of what is written decides: an object that tells a kind is an expression, anything else is a fixed
value.
-/

namespace GridRules

/-- The types that a slot can have. -/
class SlotType (α : Type) where
  /-- The value of a slot that nobody configured. -/
  unset : α
  /-- The value that the result of an expression counts as. -/
  ofResult : Value → α
  /-- The fixed value that a JSON value writes. -/
  ofLiteral? : Value → Option α
  /-- The JSON value of a fixed value. -/
  toValue : α → Value

instance : SlotType Bool where
  unset := false
  ofResult := Value.isTruthy
  ofLiteral?
    | .bool b => some b
    | _ => none
  toValue := .bool

instance : SlotType String where
  unset := ""
  ofResult := Value.displayText
  ofLiteral?
    | .string s => some s
    | _ => none
  toValue := .string

instance : SlotType Value where
  unset := .null
  ofResult := id
  ofLiteral? := some
  toValue := id

/-- A fixed value or an expression. -/
inductive Slot (α : Type) where
  /-- The same value for every row. -/
  | fixed (value : α)
  /-- A value per row. -/
  | computed (e : Expression)
deriving DecidableEq

namespace Slot

variable {α : Type} [SlotType α]

/-- The slot that nobody configured. -/
def unset : Slot α := .fixed SlotType.unset

/-- The expression of a computed slot. -/
def expression? {α : Type} : Slot α → Option Expression
  | .fixed _ => none
  | .computed e => some e

/-- The slot that a JSON value writes. -/
def ofValue (v : Value) : Except ReadError (Slot α) :=
  if Expression.hasShape v then
    match Expression.parse v with
    | .ok e => .ok (.computed e)
    | .error fault => .error (.expression fault)
  else
    match SlotType.ofLiteral? v with
    | some a => .ok (.fixed a)
    | none => .error .shape

/-- The slot that a document writes. -/
def decode (d : Document) : Except ReadError (Slot α) :=
  match d.toValue with
  | .error e => .error e
  | .ok v => ofValue v

/-- The JSON value of a slot. -/
def toValue : Slot α → Value
  | .fixed a => SlotType.toValue a
  | .computed e => e.toValue

/-- The value of a slot on a row. -/
def resolve (slot : Slot α) (row : Row) : Except Expression.Fault α :=
  match slot with
  | .fixed a => .ok a
  | .computed e => (e.evaluate row).map SlotType.ofResult

/-- The value of a slot on a row, or the fallback when its expression is faulty. -/
def resolveOr (slot : Slot α) (row : Row) (fallback : α) : α :=
  match slot.resolve row with
  | .ok a => a
  | .error _ => fallback

/-- The value on a row of what is written, without making a slot of it first. Any JSON value that is
no expression counts as a result, so nothing is of the wrong type here. -/
def resolveWritten (row : Row) (written : Value) (fallback : α) : α :=
  if Expression.hasShape written then
    match Expression.evaluateWire row written with
    | .ok v => SlotType.ofResult v
    | .error _ => fallback
  else SlotType.ofResult written

end Slot

end GridRules
