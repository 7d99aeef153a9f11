import GridRules.Proofs.Expression.Evaluation
import GridRules.Proofs.Value.Structure

/-!
# Loose equality

Loose equality is reflexive and symmetric on all values.  On the values of one type it is structural
equality (`looseEquals_eq_sameStructure`) and so an equivalence; across the types it is not
transitive, because a number equals every text that denotes it while texts are compared as they are
written.

A comparison for equality is evaluated on the values of its two sides (`evaluate_equals`), hence the
sides of a rule can be exchanged.
-/

namespace GridRules

/-- The types of JSON values. -/
inductive JsonType where
  /-- The type of the null value. -/
  | null
  /-- The truth values. -/
  | bool
  /-- The numbers, whole or not. -/
  | number
  /-- The texts. -/
  | string
  /-- The lists. -/
  | array
  /-- The objects. -/
  | object
deriving DecidableEq

/-- The type of a value. -/
def Value.jsonType : Value → JsonType
  | .null => .null
  | .bool _ => .bool
  | .number _ => .number
  | .string _ => .string
  | .array _ => .array
  | .object _ => .object

lemma Primitive.looseEquals_comm (a b : Primitive) : a.looseEquals b = b.looseEquals a := by
  cases a with
  | null => cases b <;> rfl
  | bool a => cases b <;> first | rfl | exact Double.sameNumber_comm _ _
  | number x => cases b <;> first | rfl | exact Double.sameNumber_comm _ _
  | text s =>
    cases b with
    | text t => exact Bool.beq_comm
    | null => rfl
    | _ => exact Double.sameNumber_comm _ _

namespace Value

theorem looseEquals_comm (a b : Value) : a.looseEquals b = b.looseEquals a := by
  rw [looseEquals, looseEquals, Bool.and_comm, sameStructure_comm, Primitive.looseEquals_comm]

/-- Truth values are compared as zero and one, which differ. -/
lemma sameNumber_ofBool (a b : Bool) :
    (Primitive.bool a).toDouble.sameNumber (Primitive.bool b).toDouble = (a == b) := by
  cases a <;> cases b <;> decide +kernel

/-- Between values of one type nothing is converted. -/
theorem looseEquals_eq_sameStructure {a b : Value} (h : a.jsonType = b.jsonType) :
    a.looseEquals b = sameStructure a b := by
  cases a with
  | null =>
    cases b with
    | null => rfl
    | _ => cases h
  | bool a =>
    cases b with
    | bool b => exact sameNumber_ofBool a b
    | _ => cases h
  | number n =>
    cases b with
    | number m => rfl
    | _ => cases h
  | string s =>
    cases b with
    | string t => rfl
    | _ => cases h
  | array items =>
    cases b with
    | array others => rfl
    | _ => cases h
  | object fields =>
    cases b with
    | object others => rfl
    | _ => cases h

theorem looseEquals_refl (v : Value) : v.looseEquals v = true := by
  rw [looseEquals_eq_sameStructure rfl]
  exact sameStructure_refl v

theorem looseEquals_trans {a b c : Value} (hab : a.jsonType = b.jsonType)
    (hbc : b.jsonType = c.jsonType) (h : a.looseEquals b = true) (h' : b.looseEquals c = true) :
    a.looseEquals c = true := by
  rw [looseEquals_eq_sameStructure hab] at h
  rw [looseEquals_eq_sameStructure hbc] at h'
  rw [looseEquals_eq_sameStructure (hab.trans hbc)]
  exact sameStructure_trans h h'

/-- A number equals two texts that are not equal to each other. -/
example : looseEquals (.string "1") (.string "1.0") = false
    ∧ ∀ s ∈ ["1", "1.0"], looseEquals (.string s) (.number (.integer 1 (by decide))) = true := by
  decide +kernel

end Value

namespace Expression

lemma evaluate_eq_ok_iff {row : Row} {e : Expression} {v : Value} :
    e.evaluate row = .ok v ↔ ∃ operand, e.operandOn row = .ok operand ∧ orNull operand = v := by
  rw [evaluate]
  cases e.operandOn row with
  | error fault => simp [Except.map]
  | ok operand => simp [Except.map]

/-- A comparison for equality compares the values of its sides, a missing field being null. -/
lemma evaluate_equals {row : Row} {l r : Expression} {v w : Value} (hl : l.evaluate row = .ok v)
    (hr : r.evaluate row = .ok w) :
    (binary .equals l r).evaluate row = .ok (.bool (v.looseEquals w)) := by
  obtain ⟨a, ha, rfl⟩ := evaluate_eq_ok_iff.1 hl
  obtain ⟨b, hb, rfl⟩ := evaluate_eq_ok_iff.1 hr
  rw [evaluate, operandOn, if_neg (by decide), ha, hb]
  rfl

end Expression

namespace Value

/-- Loose equality is reflexive and symmetric on all values, and an equivalence on the values of one
type.  Two objects are equal when they have as many fields and each field of one is found in the
other with the same structure.  The sides of a comparison for equality can be exchanged: for
expressions whose operators have as many operands as they take, it gives the same truth value on
every row. -/
theorem looseEquals_is_equivalence_on_types :
    (∀ a : Value, a.looseEquals a = true)
      ∧ (∀ a b : Value, a.looseEquals b = b.looseEquals a)
      ∧ (∀ a b c : Value, a.jsonType = b.jsonType → b.jsonType = c.jsonType →
        a.looseEquals b = true → b.looseEquals c = true → a.looseEquals c = true)
      ∧ (∀ a b : List (String × Value), Ascending a → Ascending b →
        (looseEquals (.object a) (.object b) = true ↔ a.length = b.length
          ∧ ∀ e ∈ a, ∃ w, b.lookup e.1 = some w ∧ sameStructure e.2 w = true))
      ∧ ∀ (row : Row) (l r : Expression), l.WellFormed → r.WellFormed →
        ∃ b, (Expression.binary .equals l r).evaluate row = .ok (.bool b)
          ∧ (Expression.binary .equals r l).evaluate row = .ok (.bool b) := by
  refine ⟨looseEquals_refl, looseEquals_comm,
    fun a b c hab hbc h h' => looseEquals_trans hab hbc h h',
    fun a b ha hb => sameStructureFields_iff_lookup ha hb, fun row l r hl hr => ?_⟩
  obtain ⟨v, hv⟩ := Expression.evaluate_of_wellFormed row hl
  obtain ⟨w, hw⟩ := Expression.evaluate_of_wellFormed row hr
  refine ⟨v.looseEquals w, Expression.evaluate_equals hv hw, ?_⟩
  rw [looseEquals_comm]
  exact Expression.evaluate_equals hw hv

/-- A whole number and the double of the same number make equal objects, in either order and through
another one; a missing field equals null on either side. -/
theorem looseEquals_of_nested_numbers :
    let whole := Value.number (.integer 2 (by decide))
    let double := Value.number (.real false (.ofRank 0x4000000000000000) (by decide))
    looseEquals (.object [("a", whole)]) (.object [("a", double)]) = true
      ∧ looseEquals (.object [("a", double)]) (.object [("a", whole)]) = true
      ∧ looseEquals (.object [("a", whole)]) (.object [("a", whole)]) = true
      ∧ ∃ b, (Expression.binary .equals (.field "a") (.literal .null)).evaluate .empty
          = .ok (.bool b)
        ∧ (Expression.binary .equals (.literal .null) (.field "a")).evaluate .empty
          = .ok (.bool b) := by
  intro whole double
  obtain ⟨-, comm, trans, objects, exchange⟩ := looseEquals_is_equivalence_on_types
  have hsame : sameStructure whole double = true := by decide +kernel
  have h : looseEquals (.object [("a", whole)]) (.object [("a", double)]) = true := by
    refine (objects _ _ (List.pairwise_singleton ..) (List.pairwise_singleton ..)).2 ⟨rfl, ?_⟩
    exact List.forall_mem_singleton.2 ⟨double, List.lookup_cons_self, hsame⟩
  have h' := (comm (.object [("a", double)]) (.object [("a", whole)])).trans h
  have h'' := trans (.object [("a", whole)]) (.object [("a", double)]) (.object [("a", whole)])
    rfl rfl h h'
  exact ⟨h, h', h'', exchange .empty _ _ trivial trivial⟩

end Value

end GridRules
