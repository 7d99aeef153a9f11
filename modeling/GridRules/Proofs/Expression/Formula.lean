import GridRules.Proofs.Expression.Evaluation

/-!
# Propositional formulas over expressions

The conjunction and the disjunction of expressions give one of their operands as it is, so their
values need not be truth values.  Read as truth values they are those of propositional logic: the
expression of a formula counts as true exactly when the formula is true of its atoms, each of which
stands for its own truth on the row (`Formula.holds_toExpression`).  Such an expression gives a
truth value or the operand of one of its atoms, a missing field included
(`Formula.exists_operandOn`), because only the negation makes a value of its own.
-/

namespace GridRules

/-! ## Truth on a row -/

lemma truthyOperand_and (a b : Option Value) :
    truthyOperand (Operator.and.apply a b) = (truthyOperand a && truthyOperand b) := by
  rw [Operator.apply]
  cases ha : truthyOperand a with
  | true => rw [if_pos rfl, Bool.true_and]
  | false => rw [if_neg Bool.false_ne_true, Bool.false_and, ha]

lemma truthyOperand_or (a b : Option Value) :
    truthyOperand (Operator.or.apply a b) = (truthyOperand a || truthyOperand b) := by
  rw [Operator.apply]
  cases ha : truthyOperand a with
  | true => rw [if_pos rfl, Bool.true_or, ha]
  | false => rw [if_neg Bool.false_ne_true, Bool.false_or]

/-- A missing field counts as false, as null does. -/
lemma isTruthy_orNull (operand : Option Value) :
    (orNull operand).isTruthy = truthyOperand operand := by
  cases operand <;> rfl

namespace Expression

/-- Whether an expression counts as true on a row; one that cannot be evaluated does not. -/
def isTrue (row : Row) (e : Expression) : Bool := (e.holds row).toOption.getD false

variable {row : Row} {e : Expression}

lemma evaluate_of_operandOn {operand : Option Value} (h : e.operandOn row = .ok operand) :
    e.evaluate row = .ok (orNull operand) := by
  rw [evaluate, h]
  rfl

lemma holds_of_operandOn {operand : Option Value} (h : e.operandOn row = .ok operand) :
    e.holds row = .ok (truthyOperand operand) := by
  rw [holds, evaluate_of_operandOn h, ← isTruthy_orNull]
  rfl

lemma isTrue_of_holds {b : Bool} (h : e.holds row = .ok b) : e.isTrue row = b := by
  rw [isTrue, h]
  rfl

lemma holds_of_wellFormed (row : Row) (h : e.WellFormed) : e.holds row = .ok (e.isTrue row) := by
  obtain ⟨operand, ho⟩ := operandOn_of_wellFormed row h
  have hb := holds_of_operandOn ho
  rw [isTrue_of_holds hb]
  exact hb

lemma operandOn_unary_not {operand : Option Value} (h : e.operandOn row = .ok operand) :
    (unary .not e).operandOn row = .ok (some (.bool !truthyOperand operand)) := by
  rw [operandOn, if_pos (by decide), h]
  rfl

lemma operandOn_binary {op : Operator} {l r : Expression} {a b : Option Value}
    (hop : op.isUnary = false) (hl : l.operandOn row = .ok a) (hr : r.operandOn row = .ok b) :
    (binary op l r).operandOn row = .ok (op.apply a b) := by
  rw [operandOn, if_neg (by simp [hop]), hl, hr]
  rfl

end Expression

/-! ## Formulas -/

/-- A propositional formula over expressions. -/
inductive Formula where
  /-- An expression, as a proposition about a row. -/
  | atom (e : Expression)
  /-- Both formulas are true. -/
  | and (l r : Formula)
  /-- One of the formulas is true. -/
  | or (l r : Formula)
  /-- The formula is not true. -/
  | not (f : Formula)

namespace Formula

/-- The expressions that a formula is built from, from left to right. -/
def atoms : Formula → List Expression
  | atom e => [e]
  | and l r => l.atoms ++ r.atoms
  | or l r => l.atoms ++ r.atoms
  | not f => f.atoms

/-- The truth value of a formula when each atom has the given one. -/
def value (truth : Expression → Bool) : Formula → Bool
  | atom e => truth e
  | and l r => l.value truth && r.value truth
  | or l r => l.value truth || r.value truth
  | not f => !f.value truth

/-- The expression that is built like the formula. -/
def toExpression : Formula → Expression
  | atom e => e
  | and l r => .binary .and l.toExpression r.toExpression
  | or l r => .binary .or l.toExpression r.toExpression
  | not f => .unary .not f.toExpression

/-- The atoms are expressions whose operators have as many operands as they take. -/
def WellFormed (f : Formula) : Prop := ∀ e ∈ f.atoms, e.WellFormed

/-- Two formulas have the same truth value whatever the truth values of their atoms are. -/
def Equivalent (f g : Formula) : Prop := ∀ truth, f.value truth = g.value truth

lemma wellFormed_and {l r : Formula} : (and l r).WellFormed ↔ l.WellFormed ∧ r.WellFormed :=
  List.forall_mem_append

lemma wellFormed_or {l r : Formula} : (or l r).WellFormed ↔ l.WellFormed ∧ r.WellFormed :=
  List.forall_mem_append

/-- What the expression of a formula gives on a row: its truth is that of the formula, and it is a
truth value or what an atom gives. -/
structure IsOperandOf (row : Row) (f : Formula) (operand : Option Value) : Prop where
  /-- The expression gives the operand. -/
  operandOn : f.toExpression.operandOn row = .ok operand
  /-- The truth of the operand is that of the formula. -/
  truth : truthyOperand operand = f.value fun e => e.isTrue row
  /-- The operand is a truth value or comes from an atom. -/
  origin : (∃ b, operand = some (.bool b)) ∨ ∃ e ∈ f.atoms, e.operandOn row = .ok operand

theorem exists_operandOn (row : Row) {f : Formula} (h : f.WellFormed) :
    ∃ operand, f.IsOperandOf row operand := by
  induction f with
  | atom e =>
    have he : e.WellFormed := h e List.mem_cons_self
    obtain ⟨operand, ho⟩ := Expression.operandOn_of_wellFormed row he
    have htruth := Expression.isTrue_of_holds (Expression.holds_of_operandOn ho)
    exact ⟨operand, ho, htruth.symm, .inr ⟨e, List.mem_cons_self, ho⟩⟩
  | and l r ihl ihr =>
    obtain ⟨hl, hr⟩ := wellFormed_and.1 h
    obtain ⟨a, ha⟩ := ihl hl
    obtain ⟨b, hb⟩ := ihr hr
    have happly : (Expression.binary .and l.toExpression r.toExpression).operandOn row
        = .ok (Operator.and.apply a b) :=
      Expression.operandOn_binary rfl ha.operandOn hb.operandOn
    refine ⟨_, happly, ?_, ?_⟩
    · rw [truthyOperand_and, ha.truth, hb.truth, value]
    · -- the result is one of the two operands, whose origin is known
      rw [Operator.apply]
      split
      · exact hb.origin.imp_right fun ⟨e, he, ho⟩ => ⟨e, List.mem_append_right _ he, ho⟩
      · exact ha.origin.imp_right fun ⟨e, he, ho⟩ => ⟨e, List.mem_append_left _ he, ho⟩
  | or l r ihl ihr =>
    obtain ⟨hl, hr⟩ := wellFormed_or.1 h
    obtain ⟨a, ha⟩ := ihl hl
    obtain ⟨b, hb⟩ := ihr hr
    have happly : (Expression.binary .or l.toExpression r.toExpression).operandOn row
        = .ok (Operator.or.apply a b) :=
      Expression.operandOn_binary rfl ha.operandOn hb.operandOn
    refine ⟨_, happly, ?_, ?_⟩
    · rw [truthyOperand_or, ha.truth, hb.truth, value]
    · rw [Operator.apply]
      split
      · exact ha.origin.imp_right fun ⟨e, he, ho⟩ => ⟨e, List.mem_append_left _ he, ho⟩
      · exact hb.origin.imp_right fun ⟨e, he, ho⟩ => ⟨e, List.mem_append_right _ he, ho⟩
  | not f ih =>
    obtain ⟨a, ha⟩ := ih h
    refine ⟨_, Expression.operandOn_unary_not ha.operandOn, ?_, .inl ⟨_, rfl⟩⟩
    have htruth : truthyOperand (some (.bool !truthyOperand a)) = !truthyOperand a := rfl
    rw [htruth, ha.truth, value]

/-- The expression of a formula counts as true exactly when the formula is true of its atoms. -/
theorem holds_toExpression (row : Row) {f : Formula} (h : f.WellFormed) :
    f.toExpression.holds row = .ok (f.value fun e => e.isTrue row) := by
  obtain ⟨operand, ho⟩ := exists_operandOn row h
  rw [Expression.holds_of_operandOn ho.operandOn, ho.truth]

/-- The value of the expression of a formula is a truth value or the value of an atom. -/
theorem exists_evaluate_toExpression (row : Row) {f : Formula} (h : f.WellFormed) :
    ∃ v, f.toExpression.evaluate row = .ok v
      ∧ ((∃ b, v = .bool b) ∨ ∃ e ∈ f.atoms, e.evaluate row = .ok v) := by
  obtain ⟨operand, ho⟩ := exists_operandOn row h
  refine ⟨orNull operand, Expression.evaluate_of_operandOn ho.operandOn, ?_⟩
  rcases ho.origin with ⟨b, rfl⟩ | ⟨e, he, hatom⟩
  · exact .inl ⟨b, rfl⟩
  · exact .inr ⟨e, he, Expression.evaluate_of_operandOn hatom⟩

theorem holds_eq_of_equivalent (row : Row) {f g : Formula} (hf : f.WellFormed)
    (hg : g.WellFormed) (h : f.Equivalent g) :
    f.toExpression.holds row = g.toExpression.holds row := by
  rw [holds_toExpression row hf, holds_toExpression row hg, h]

end Formula

end GridRules
