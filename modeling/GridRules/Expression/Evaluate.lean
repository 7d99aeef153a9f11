import GridRules.Expression.Parse
import GridRules.Row
import GridRules.Value.Comparison

/-!
# Evaluation

The value of an expression on a row. A field that the row lacks evaluates to null in the end, but
inside an expression it is kept apart: "at most" and "at least" are false when a side is missing.
Both operands are always evaluated; the only fault is an operator with the wrong number of operands.
-/

namespace GridRules

/-- Whether an operand counts as true; a missing one does not. -/
def truthyOperand (operand : Option Value) : Bool := operand.any Value.isTruthy

/-- The value of an operand, null when it is missing. -/
def orNull (operand : Option Value) : Value := operand.getD .null

/-- A comparison of two operands, false when one is missing. -/
def comparePresent (test : Value → Value → Bool) : Option Value → Option Value → Bool
  | some a, some b => test a b
  | _, _ => false

/-- The result of an operator on two operands. The conjunction and the disjunction give one of their
operands as it is, missing or not. -/
def Operator.apply (op : Operator) (a b : Option Value) : Option Value :=
  match op with
  | and => if truthyOperand a then b else a
  | or => if truthyOperand a then a else b
  | equals => some (.bool ((orNull a).looseEquals (orNull b)))
  | includes => some (.bool ((orNull b).includes (orNull a)))
  | atMost => some (.bool (comparePresent Value.atMost a b))
  | atLeast => some (.bool (comparePresent Value.atLeast a b))
  | not => some (.bool !truthyOperand a)

namespace Expression

/-- The operand that an expression gives on a row, `none` for a missing field. -/
def operandOn (row : Row) : Expression → Except Fault (Option Value)
  | literal value => .ok (some value)
  | field name => .ok (row.get? name)
  | unary op e =>
    if op.isUnary then
      (under [.body] (e.operandOn row)).map fun v => some (.bool !truthyOperand v)
    else .error (Cause.takesTwo op).here
  | binary op l r =>
    if op.isUnary then .error (Cause.takesOne op).here
    else
      match under [.body, .operand .left] (l.operandOn row) with
      | .error fault => .error fault
      | .ok a => (under [.body, .operand .right] (r.operandOn row)).map (op.apply a)

/-- The value of an expression on a row. -/
def evaluate (row : Row) (e : Expression) : Except Fault Value := (e.operandOn row).map orNull

/-- Whether the value of an expression on a row counts as true. -/
def holds (row : Row) (e : Expression) : Except Fault Bool := (e.evaluate row).map Value.isTruthy

/-- The value of an expression that is still in its wire form. -/
def evaluateWire (row : Row) (v : Value) : Except Fault Value :=
  match parse v with
  | .error fault => .error fault
  | .ok e => e.evaluate row

end Expression

end GridRules
