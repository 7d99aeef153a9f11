import GridRules.Json.Printer

/-!
# Expressions

A rule is an expression over the fields of a row: a constant, a field, or an operator on one or two
operands. Only the negation takes one operand. A tree can hold an operator with the wrong number of
operands; `Expression.WellFormed` says that none does.
-/

namespace GridRules

/-- The operators. -/
inductive Operator where
  /-- The first operand that counts as false, else the second. -/
  | and
  /-- The first operand that counts as true, else the second. -/
  | or
  /-- Loose equality. -/
  | equals
  /-- Negation. -/
  | not
  /-- Membership of the left operand in the right one. -/
  | includes
  /-- At most. -/
  | atMost
  /-- At least. -/
  | atLeast
deriving DecidableEq

namespace Operator

/-- The symbol of an operator. -/
def symbol : Operator → String
  | and => "&&"
  | or => "||"
  | equals => "=="
  | not => "!"
  | includes => "includes"
  | atMost => "<="
  | atLeast => ">="

/-- The operator of a symbol. The disjunction has a second symbol, which ends in a space. -/
def ofSymbol? : String → Option Operator
  | "&&" => some and
  | "||" => some or
  | "|| " => some or
  | "==" => some equals
  | "!" => some not
  | "includes" => some includes
  | "<=" => some atMost
  | ">=" => some atLeast
  | _ => none

/-- Whether the operator takes a single operand. -/
def isUnary : Operator → Bool
  | not => true
  | _ => false

@[simp] theorem ofSymbol?_symbol (op : Operator) : ofSymbol? op.symbol = some op := by
  cases op <;> rfl

end Operator

/-- An expression over the fields of a row. -/
inductive Expression where
  /-- A constant. -/
  | literal (value : Value)
  /-- The value of a field. -/
  | field (name : String)
  /-- An operator on one operand. -/
  | unary (op : Operator) (operand : Expression)
  /-- An operator on two operands. -/
  | binary (op : Operator) (left right : Expression)
deriving DecidableEq, Inhabited

namespace Expression

/-- Every operator of the tree has as many operands as it takes. -/
def WellFormed : Expression → Prop
  | literal _ => True
  | field _ => True
  | unary op e => op.isUnary = true ∧ e.WellFormed
  | binary op l r => op.isUnary = false ∧ l.WellFormed ∧ r.WellFormed

/-- The wire form of an expression, an object that tells its kind. -/
def toValue : Expression → Value
  | literal value => .object [("type", .string "literal"), ("value", value)]
  | field name => .object [("type", .string "value"), ("value", .string name)]
  | unary op e =>
    .object [("body", e.toValue), ("type", .string "operator"), ("value", .string op.symbol)]
  | binary op l r =>
    .object [("body", .object [("left", l.toValue), ("right", r.toValue)]),
      ("type", .string "operator"), ("value", .string op.symbol)]

/-- A list of names with a name added at its end, unless it is there already. -/
def addNew (names : List String) (name : String) : List String :=
  if name ∈ names then names else names ++ [name]

/-- The names found so far together with those that the tree adds, from left to right. -/
def collectFields : Expression → List String → List String
  | literal _, names => names
  | field name, names => addNew names name
  | unary _ e, names => e.collectFields names
  | binary _ l r, names => r.collectFields (l.collectFields names)

/-- The field names that the expression reads, each once, in the order of first appearance. -/
def fields (e : Expression) : List String := e.collectFields []

/-- The text of an expression: constants as JSON, two operands in brackets around the symbol. -/
def displayText : Expression → String
  | literal value => value.render
  | field name => name
  | unary op e => op.symbol ++ e.displayText
  | binary op l r => "(" ++ l.displayText ++ " " ++ op.symbol ++ " " ++ r.displayText ++ ")"

end Expression

end GridRules
