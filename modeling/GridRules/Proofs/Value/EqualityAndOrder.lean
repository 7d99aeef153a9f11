import GridRules.Proofs.Value.LooseEquality

/-!
# Equality and order

Loose equality and the order behind "at most" and "at least" convert their sides independently of
each other.  They meet on primitives (`Primitive.looseEquals_iff_compare?`): two primitives are
loosely equal exactly when the order finds them equal, null against anything else aside, which
equality tells apart and the order reads as zero.  Two lists or objects are the other exception:
equality looks into them, while the order knows only their display texts.

Each conversion can be made ahead of the comparison and changes neither answer: a truth value counts
as zero or one (`looseEquals_bool`, `compare?_bool`), a list or an object that meets anything else
as its display text (`looseEquals_container`, `compare?_displayText`).
-/

namespace GridRules

open Std (OrientedCmp)

/-! ## Primitives -/

namespace Double

lemma compare?_swap (x y : Double) : y.compare? x = (x.compare? y).map Ordering.swap := by
  unfold compare?
  cases x.place with
  | none => cases y.place <;> rfl
  | some p =>
    cases y.place with
    | none => rfl
    | some q => exact congrArg some OrientedCmp.eq_swap

lemma sameNumber_iff_compare? {x y : Double} :
    x.sameNumber y = true ↔ x.compare? y = some .eq := beq_iff_eq

end Double

namespace Primitive

/-- Unless both are texts, primitives are ordered by their numeric readings. -/
lemma compare?_of_toDouble {p q : Primitive} (h : ∀ s t, p = text s → q ≠ text t) :
    p.compare? q = p.toDouble.compare? q.toDouble := by
  unfold compare?
  split
  · exact absurd rfl (h _ _ rfl)
  · rfl

lemma compare?_swap (p q : Primitive) : q.compare? p = (p.compare? q).map Ordering.swap := by
  by_cases h : ∃ s t, p = text s ∧ q = text t
  · obtain ⟨s, t, rfl, rfl⟩ := h
    exact congrArg some OrientedCmp.eq_swap
  · have hpq : ∀ s t, p = text s → q ≠ text t := fun s t hp hq => h ⟨s, t, hp, hq⟩
    have hqp : ∀ s t, q = text s → p ≠ text t := fun s t hq hp => h ⟨t, s, hp, hq⟩
    rw [compare?_of_toDouble hpq, compare?_of_toDouble hqp]
    exact Double.compare?_swap _ _

/-- Null equals nothing else, although the order reads it as zero; all other primitives are equal
exactly when the order finds them equal. -/
lemma looseEquals_iff_compare? {p q : Primitive} (h : p = null ↔ q = null) :
    p.looseEquals q = true ↔ p.compare? q = some .eq := by
  cases p with
  | null =>
    obtain rfl := h.1 rfl
    decide
  | text s =>
    cases q with
    | null => cases h.2 rfl
    | text t =>
      have hcompare : compare s t = .eq ↔ s = t := Std.LawfulEqCmp.compare_eq_iff_eq
      simp [looseEquals, compare?, hcompare]
    | _ => exact Double.sameNumber_iff_compare?
  | _ =>
    cases q with
    | null => cases h.2 rfl
    | _ => exact Double.sameNumber_iff_compare?

end Primitive

namespace Value

lemma primitive_eq_null_iff {v : Value} : v.primitive = .null ↔ v = .null := by
  cases v <;> simp [primitive]

/-! ## The order -/

theorem compare?_swap (a b : Value) : b.compare? a = (a.compare? b).map Ordering.swap :=
  Primitive.compare?_swap _ _

lemma atMost_iff {a b : Value} :
    a.atMost b = true ↔ a.compare? b = some .lt ∨ a.compare? b = some .eq := by
  unfold atMost
  split <;> simp_all

lemma atLeast_iff {a b : Value} :
    a.atLeast b = true ↔ a.compare? b = some .gt ∨ a.compare? b = some .eq := by
  unfold atLeast
  split <;> simp_all

lemma atMost_eq_atLeast (a b : Value) : a.atMost b = b.atLeast a := by
  rw [Bool.eq_iff_iff, atMost_iff, atLeast_iff, compare?_swap a b]
  cases a.compare? b with
  | none => simp
  | some order => cases order <;> simp

lemma compare?_eq_iff {a b : Value} :
    a.compare? b = some .eq ↔ a.atMost b = true ∧ a.atLeast b = true := by
  rw [atMost_iff, atLeast_iff]
  constructor
  · intro h
    exact ⟨.inr h, .inr h⟩
  · rintro ⟨hmost, hleast⟩
    rcases hmost with hlt | heq
    · rcases hleast with hgt | heq
      · simp [hlt] at hgt
      · exact heq
    · exact heq

/-! ## Conversions made ahead -/

/-- A truth value as a number. -/
def ofTruth (t : Bool) : Value := .number (.integer (if t then 1 else 0) (by cases t <;> decide))

theorem looseEquals_bool (t : Bool) (b : Value) :
    looseEquals (.bool t) b = looseEquals (ofTruth t) b := by
  cases b <;> rfl

theorem compare?_bool (t : Bool) (b : Value) : compare? (.bool t) b = compare? (ofTruth t) b := by
  cases b <;> rfl

lemma primitive_of_isContainer {v : Value} (h : v.isContainer = true) :
    v.primitive = .text v.displayText := by
  cases v with
  | array items => rfl
  | object fields => rfl
  | _ => cases h

/-- Equality converts a list or an object only where it meets something else. -/
theorem looseEquals_container {a b : Value} (ha : a.isContainer = true)
    (hb : b.isContainer = false) : a.looseEquals b = looseEquals (.string a.displayText) b := by
  rw [looseEquals, looseEquals, hb, Bool.and_false, Bool.and_false, primitive_of_isContainer ha]
  rfl

/-- The order converts lists and objects wherever they stand. -/
theorem compare?_displayText {a : Value} (ha : a.isContainer = true) (b : Value) :
    a.compare? b = compare? (.string a.displayText) b := by
  rw [compare?, compare?, primitive_of_isContainer ha]
  rfl

/-! ## Both together -/

theorem looseEquals_iff_compare? {a b : Value} (hnull : a = .null ↔ b = .null)
    (h : (a.isContainer && b.isContainer) = false) :
    a.looseEquals b = true ↔ a.compare? b = some .eq := by
  have hprimitive : a.primitive = .null ↔ b.primitive = .null := by
    rw [primitive_eq_null_iff, primitive_eq_null_iff]
    exact hnull
  rw [looseEquals, if_neg (by simp [h])]
  exact Primitive.looseEquals_iff_compare? hprimitive

/-- Null against zero, and a list of a number against a list of its text: the order finds both pairs
equal and equality neither. -/
example :
    let one : Value := .number (.integer 1 (by decide))
    looseEquals .null (ofTruth false) = false
      ∧ compare? .null (ofTruth false) = some .eq
      ∧ looseEquals (.array [one]) (.array [.string "1"]) = false
      ∧ compare? (.array [one]) (.array [.string "1"]) = some .eq := by
  decide +kernel

/-- Turning the sides around turns the answer of the order around, so that one value is at most
another exactly when the other is at least the first.  If two values are both null or both not, and
are not both lists or objects, then they are loosely equal exactly when the order finds them equal,
that is when each is at most the other.  A truth value can be replaced by zero or one, and a list or
an object by its display text where the other side is neither; this changes neither equality nor the
order. -/
theorem looseEquality_agrees_with_order :
    (∀ a b : Value, b.compare? a = (a.compare? b).map Ordering.swap)
      ∧ (∀ a b : Value, a.atMost b = b.atLeast a)
      ∧ (∀ a b : Value, (a = .null ↔ b = .null) →
        (a.isContainer && b.isContainer) = false →
        (a.looseEquals b = true ↔ a.compare? b = some .eq)
          ∧ (a.looseEquals b = true ↔ a.atMost b = true ∧ a.atLeast b = true))
      ∧ (∀ (t : Bool) (b : Value), looseEquals (.bool t) b = looseEquals (ofTruth t) b
        ∧ compare? (.bool t) b = compare? (ofTruth t) b)
      ∧ ∀ a b : Value, a.isContainer = true → b.isContainer = false →
        a.looseEquals b = looseEquals (.string a.displayText) b
          ∧ a.compare? b = compare? (.string a.displayText) b := by
  refine ⟨compare?_swap, atMost_eq_atLeast, fun a b hnull h => ?_,
    fun t b => ⟨looseEquals_bool t b, compare?_bool t b⟩,
    fun a b ha hb => ⟨looseEquals_container ha hb, compare?_displayText ha b⟩⟩
  have hagree := looseEquals_iff_compare? hnull h
  exact ⟨hagree, hagree.trans compare?_eq_iff⟩

/-- A list of one text that denotes one in radix sixteen equals the truth value true: the list
counts as the text and the truth value as the number. -/
theorem looseEquals_of_list_and_truth :
    let list := Value.array [.string " 0x1"]
    list.looseEquals (.bool true) = true ∧ list.compare? (.bool true) = some .eq
      ∧ list.looseEquals (.bool true) = looseEquals (.string " 0x1") (.bool true) := by
  intro list
  obtain ⟨-, -, agree, -, containers⟩ := looseEquality_agrees_with_order
  have hcompare : list.compare? (.bool true) = some .eq := by decide +kernel
  have hequal := (agree list (.bool true) (by simp [list]) rfl).1.2 hcompare
  exact ⟨hequal, hcompare, (containers list (.bool true) rfl rfl).1⟩

end Value

end GridRules
