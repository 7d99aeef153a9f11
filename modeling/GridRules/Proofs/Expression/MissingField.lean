import GridRules.Proofs.Expression.Formula

/-!
# Missing fields and null

A field that the row lacks and a field that is null give different operands, which only the
comparisons for order tell apart.  So we evaluate an expression on two rows, one that lacks a field
and the same with null in its place, and follow the pair of operands (`Paired`): the conjunction and
the disjunction hand a difference on, every other operator without an order removes it
(`Paired.apply`), and a comparison for order meets none unless it is reached by a reference to the
field (`Exposes`).

A conjunction or a disjunction gives the operand of one part of the expression, which is told by the
row (`selected`).  A comparison for order is false where that part is a missing field
(`evaluate_of_selectsMissing`).
-/

namespace GridRules

namespace Operator

/-- The operators that give one of their operands as it is. -/
def HandsOn (op : Operator) : Prop := op = and ∨ op = or

/-- The operators that compare their operands for order. -/
def Orders (op : Operator) : Prop := op = atMost ∨ op = atLeast

end Operator

namespace Expression

/-- A reference to a field is the expression itself, or stands in it below conjunctions and
disjunctions alone. -/
def Reaches (name : String) : Expression → Prop
  | literal _ => False
  | field other => other = name
  | unary _ _ => False
  | binary op l r => op.HandsOn ∧ (l.Reaches name ∨ r.Reaches name)

/-- A reference to a field reaches an operand of some comparison for order in the expression. -/
def Exposes (name : String) : Expression → Prop
  | literal _ => False
  | field _ => False
  | unary _ e => e.Exposes name
  | binary op l r => op.Orders ∧ (l.Reaches name ∨ r.Reaches name) ∨ l.Exposes name ∨ r.Exposes name

/-! ## One row without the field and one with null -/

/-- What an expression gives on the two rows: the same operand, or a missing field and null where a
reference to the field may be handed on. -/
inductive Paired (name : String) (e : Expression) : Option Value → Option Value → Prop
  /-- The two rows give the same operand. -/
  | same (a : Option Value) : Paired name e a a
  /-- The operand is that of the field. -/
  | missing (h : e.Reaches name) : Paired name e none (some .null)

namespace Paired

variable {name : String} {e l r : Expression} {op : Operator} {a a' b b' : Option Value}

/-- Both count as false. -/
lemma truthyOperand_eq (h : Paired name e a a') : truthyOperand a = truthyOperand a' := by
  cases h <;> rfl

/-- Both are null in the end. -/
lemma orNull_eq (h : Paired name e a a') : orNull a = orNull a' := by
  cases h <;> rfl

lemma eq_of_not_reaches (h : Paired name e a a') (hreach : ¬ e.Reaches name) : a = a' := by
  cases h with
  | same => rfl
  | missing h => exact absurd h hreach

lemma left (hop : op.HandsOn) (h : Paired name l a a') : Paired name (binary op l r) a a' := by
  cases h with
  | same => exact .same a
  | missing h => exact .missing ⟨hop, .inl h⟩

lemma right (hop : op.HandsOn) (h : Paired name r b b') : Paired name (binary op l r) b b' := by
  cases h with
  | same => exact .same b
  | missing h => exact .missing ⟨hop, .inr h⟩

/-- An operator keeps its operands paired, if a comparison for order gets no reference to the
field. -/
lemma apply (hl : Paired name l a a') (hr : Paired name r b b')
    (horder : op.Orders → ¬ l.Reaches name ∧ ¬ r.Reaches name) :
    Paired name (binary op l r) (op.apply a b) (op.apply a' b') := by
  cases op with
  | and =>
    -- the same side is handed on, since both left operands have one truth
    simp only [Operator.apply, ← hl.truthyOperand_eq]
    split
    · exact hr.right (.inl rfl)
    · exact hl.left (.inl rfl)
  | or =>
    simp only [Operator.apply, ← hl.truthyOperand_eq]
    split
    · exact hl.left (.inr rfl)
    · exact hr.right (.inr rfl)
  | equals =>
    simp only [Operator.apply, ← hl.orNull_eq, ← hr.orNull_eq]
    exact .same _
  | includes =>
    simp only [Operator.apply, ← hl.orNull_eq, ← hr.orNull_eq]
    exact .same _
  | not =>
    simp only [Operator.apply, ← hl.truthyOperand_eq]
    exact .same _
  | atMost =>
    obtain ⟨hleft, hright⟩ := horder (.inl rfl)
    rw [hl.eq_of_not_reaches hleft, hr.eq_of_not_reaches hright]
    exact .same _
  | atLeast =>
    obtain ⟨hleft, hright⟩ := horder (.inr rfl)
    rw [hl.eq_of_not_reaches hleft, hr.eq_of_not_reaches hright]
    exact .same _

end Paired

variable {row : Row} {name : String} {e l r : Expression} {op : Operator}

/-- An expression that exposes no reference to the field gives paired operands on the two rows. -/
lemma exists_paired (hwell : e.WellFormed) (hexposes : ¬ e.Exposes name)
    (hmissing : row.get? name = none) :
    ∃ a a', e.operandOn row = .ok a ∧ e.operandOn (row.insert name .null) = .ok a'
      ∧ e.Paired name a a' := by
  induction e with
  | literal value => exact ⟨_, _, rfl, rfl, .same _⟩
  | field other =>
    refine ⟨_, _, rfl, rfl, ?_⟩
    rw [Row.get?_insert]
    split
    · rename_i hname
      subst hname
      rw [hmissing]
      exact .missing rfl
    · exact .same _
  | unary op e ih =>
    obtain ⟨hop, he⟩ := hwell
    obtain ⟨a, a', ha, ha', hpair⟩ := ih he hexposes
    cases op with
    | not =>
      refine ⟨_, _, operandOn_unary_not ha, operandOn_unary_not ha', ?_⟩
      rw [hpair.truthyOperand_eq]
      exact .same _
    | _ => cases hop
  | binary op l r ihl ihr =>
    obtain ⟨hop, hl, hr⟩ := hwell
    simp only [Exposes, not_or, not_and] at hexposes
    obtain ⟨horder, hexposesl, hexposesr⟩ := hexposes
    obtain ⟨a, a', ha, ha', hpairl⟩ := ihl hl hexposesl
    obtain ⟨b, b', hb, hb', hpairr⟩ := ihr hr hexposesr
    exact ⟨_, _, operandOn_binary hop ha hb, operandOn_binary hop ha' hb',
      hpairl.apply hpairr horder⟩

/-! ## The part that is handed on -/

/-- The part of an expression whose operand it gives on a row: a conjunction or a disjunction hands
on one of its sides, and any other expression is the part itself. -/
def selected (row : Row) : Expression → Expression
  | binary .and l r => if l.isTrue row then r.selected row else l.selected row
  | binary .or l r => if l.isTrue row then l.selected row else r.selected row
  | e => e

/-- The part that is handed on is a reference to a field that the row lacks. -/
def SelectsMissing (row : Row) (e : Expression) : Prop :=
  ∃ name, e.selected row = field name ∧ row.get? name = none

/-- An expression gives the operand of the part that it selects. -/
lemma operandOn_selected (row : Row) (h : e.WellFormed) :
    (e.selected row).operandOn row = e.operandOn row := by
  induction e with
  | literal value => rfl
  | field name => rfl
  | unary op e => rfl
  | binary op l r ihl ihr =>
    obtain ⟨hop, hl, hr⟩ := h
    obtain ⟨a, ha⟩ := operandOn_of_wellFormed row hl
    obtain ⟨b, hb⟩ := operandOn_of_wellFormed row hr
    have htrue : l.isTrue row = truthyOperand a := isTrue_of_holds (holds_of_operandOn ha)
    rw [operandOn_binary hop ha hb]
    cases op with
    | and =>
      simp only [selected, Operator.apply, htrue]
      split
      · exact (ihr hr).trans hb
      · exact (ihl hl).trans ha
    | or =>
      simp only [selected, Operator.apply, htrue]
      split
      · exact (ihl hl).trans ha
      · exact (ihr hr).trans hb
    | _ => exact operandOn_binary hop ha hb

lemma operandOn_of_selectsMissing (hwell : e.WellFormed) (h : e.SelectsMissing row) :
    e.operandOn row = .ok none := by
  obtain ⟨name, hselected, hmissing⟩ := h
  rw [← operandOn_selected row hwell, hselected, operandOn, hmissing]

/-- A comparison for order is false when one side is missing, whatever the other side gives. -/
lemma evaluate_of_selectsMissing (hop : op.Orders) (hwell : (binary op l r).WellFormed)
    (h : l.SelectsMissing row ∨ r.SelectsMissing row) :
    (binary op l r).evaluate row = .ok (.bool false) := by
  obtain ⟨hbinary, hl, hr⟩ := hwell
  obtain ⟨a, ha⟩ := operandOn_of_wellFormed row hl
  obtain ⟨b, hb⟩ := operandOn_of_wellFormed row hr
  have happly : op.apply a b = some (.bool false) := by
    have hnone : a = none ∨ b = none := by
      refine h.imp (fun h => ?_) (fun h => ?_)
      · exact Except.ok.inj (ha.symm.trans (operandOn_of_selectsMissing hl h))
      · exact Except.ok.inj (hb.symm.trans (operandOn_of_selectsMissing hr h))
    rcases hop with rfl | rfl <;> rcases hnone with rfl | rfl
    · rfl
    · cases a <;> rfl
    · rfl
    · cases a <;> rfl
  rw [evaluate_of_operandOn (operandOn_binary hbinary ha hb), happly]
  rfl

/-- A missing field differs from null only where it is ordered.  An expression without a reference
to a field that reaches an operand of a comparison for order has one value on a row that lacks the
field and on the row with null there.  And a comparison for order is false on every row where the
part that one of its sides hands on is a field that the row lacks, whatever the other side is. -/
theorem missing_differs_from_null_only_in_order :
    (∀ (row : Row) (name : String) (e : Expression), e.WellFormed → ¬ e.Exposes name →
      row.get? name = none →
      ∃ v, e.evaluate row = .ok v ∧ e.evaluate (row.insert name .null) = .ok v)
      ∧ ∀ (row : Row) (op : Operator) (l r : Expression), op.Orders →
        (binary op l r).WellFormed → l.SelectsMissing row ∨ r.SelectsMissing row →
        (binary op l r).evaluate row = .ok (.bool false) := by
  refine ⟨fun row name e hwell hexposes hmissing => ?_,
    fun row op l r hop hwell h => evaluate_of_selectsMissing hop hwell h⟩
  obtain ⟨a, a', ha, ha', hpair⟩ := exists_paired hwell hexposes hmissing
  refine ⟨orNull a, evaluate_of_operandOn ha, ?_⟩
  rw [hpair.orNull_eq]
  exact evaluate_of_operandOn ha'

/-- A negation between the field and a comparison hides that the field is missing.  A disjunction
does not: the second comparison gets the missing field and is false, and with null there it is
true. -/
theorem missing_age_below_negation_and_disjunction :
    let adult := literal (Value.ofNat 18 (by decide))
    let hidden := binary .and (binary .equals (field "age") (literal .null))
      (binary .atMost (unary .not (field "age")) adult)
    let exposed := binary .atMost (binary .or (field "vip") (field "age")) adult
    let row := Row.empty.insert "vip" (.bool false)
    (∃ v, hidden.evaluate row = .ok v ∧ hidden.evaluate (row.insert "age" .null) = .ok v)
      ∧ exposed.evaluate row = .ok (.bool false)
      ∧ exposed.Exposes "age" ∧ exposed.evaluate (row.insert "age" .null) = .ok (.bool true) := by
  intro adult hidden exposed row
  obtain ⟨hsame, hfalse⟩ := missing_differs_from_null_only_in_order
  have hhidden : hidden.WellFormed ∧ ¬ hidden.Exposes "age" := by
    simp [hidden, adult, WellFormed, Exposes, Reaches, Operator.Orders, Operator.HandsOn,
      Operator.isUnary]
  have hexposed : exposed.WellFormed ∧ exposed.Exposes "age" := by
    simp [exposed, adult, WellFormed, Exposes, Reaches, Operator.Orders, Operator.HandsOn,
      Operator.isUnary]
  have hzero : Value.atMost .null (Value.ofNat 18 (by decide)) = true := by decide +kernel
  have hnull : exposed.operandOn (row.insert "age" .null)
      = .ok (Operator.atMost.apply (some .null) (some (Value.ofNat 18 (by decide)))) :=
    operandOn_binary rfl rfl rfl
  refine ⟨hsame row "age" hidden hhidden.1 hhidden.2 rfl,
    hfalse row .atMost _ _ (.inl rfl) hexposed.1 (.inl ⟨"age", rfl, rfl⟩), hexposed.2, ?_⟩
  rw [evaluate_of_operandOn hnull, Operator.apply, comparePresent, hzero]
  rfl

end Expression

end GridRules
