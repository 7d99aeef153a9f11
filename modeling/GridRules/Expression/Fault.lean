import GridRules.Expression.Basic

/-!
# What can be wrong with an expression

A fault is a cause together with the place of the offending node: the steps that lead to it from the
root of the wire form. The root is written `$`, and each step appends a name.
-/

namespace GridRules

/-- One of the two operands of a binary operator. -/
inductive Side where
  /-- The first operand. -/
  | left
  /-- The second operand. -/
  | right
deriving DecidableEq

/-- A step from a node of the wire form into it. -/
inductive Step where
  /-- Into the body of an operator. -/
  | body
  /-- From the body of an operator to one of its operands. -/
  | operand (side : Side)
deriving DecidableEq

/-- The name under which an operand is kept. -/
def Side.name : Side → String
  | left => "left"
  | right => "right"

/-- The name under which a step finds its value. -/
def Step.name : Step → String
  | body => "body"
  | operand side => side.name

/-- The text of a path from the root. -/
def pathText (path : List Step) : String :=
  path.foldl (fun text step => text ++ "." ++ step.name) "$"

namespace Expression

/-- Why a node is no expression. -/
inductive Cause where
  /-- The kind of the node is unknown, missing or no text. -/
  | unknownKind (tag : Option Value)
  /-- The operator is unknown, missing or no text. -/
  | unknownOperator (symbol : Option Value)
  /-- The node is no object. -/
  | notAnObject (got : Value)
  /-- A field node names no field. -/
  | fieldMissing
  /-- A field node names its field by something that is neither a text nor a number. -/
  | fieldNotNamed (got : Value)
  /-- An operator node has no body. -/
  | bodyMissing (symbol : String)
  /-- The body of a binary operator is no object. -/
  | bodyNotAnObject
  /-- The body of a binary operator lacks an operand. -/
  | operandMissing (side : Side)
  /-- An operator that takes one operand has two. -/
  | takesOne (op : Operator)
  /-- An operator that takes two operands has one. -/
  | takesTwo (op : Operator)
  /-- The text of the expression is no JSON. -/
  | invalidText
deriving DecidableEq

/-- A cause at a node. -/
structure Fault where
  /-- What is wrong. -/
  cause : Cause
  /-- The steps from the root to the offending node. -/
  path : List Step
deriving DecidableEq

/-- A fault at the node itself. -/
def Cause.here (cause : Cause) : Fault := ⟨cause, []⟩

/-- The fault seen from a node further up. -/
def Fault.under (steps : List Step) (fault : Fault) : Fault := ⟨fault.cause, steps ++ fault.path⟩

/-- A result for a part, seen from the node that holds it. -/
def under {α : Type} (steps : List Step) : Except Fault α → Except Fault α :=
  Except.mapError (Fault.under steps)

@[simp] theorem under_ok {α : Type} (steps : List Step) (a : α) :
    under steps (.ok a) = .ok a := rfl

@[simp] theorem under_error {α : Type} (steps : List Step) (fault : Fault) :
    under (α := α) steps (.error fault) = .error (fault.under steps) := rfl

end Expression

end GridRules
