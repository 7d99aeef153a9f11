import GridRules.Value.Coercion
import Mathlib.Data.List.TakeWhile
import Mathlib.Tactic.Lemma

/-!
# Texts that denote a number

A literal is an infinity, a whole number with a mark for its radix, or a decimal numeral
(`Denotes`).  The forms exclude each other, so a literal denotes one number, and reading a text
gives that number or, for any other text, what is not a number (`denotes_iff`).

White space around a literal does not matter; blank text reads as zero and denotes nothing.
-/

namespace GridRules

/-- A trimmed text denotes a number. -/
inductive Denotes : List Char → Double → Prop
  /-- Positive infinity. -/
  | infinity : Denotes "Infinity".toList (.infinity false)
  /-- Positive infinity with its sign. -/
  | plusInfinity : Denotes "+Infinity".toList (.infinity false)
  /-- Negative infinity. -/
  | minusInfinity : Denotes "-Infinity".toList (.infinity true)
  /-- A whole number below two to the power of 64, after a mark for its radix. -/
  | radix {mark : Char} {digits : List Char} {radix n : Nat} (hr : radixOf? mark = some radix)
      (hn : radixNumber? radix digits = some n) : Denotes ('0' :: mark :: digits) (.ofInt n)
  /-- A decimal numeral. -/
  | decimal {t : List Char} {n : Numeral} (h : Numeral.ofText? t = some n) : Denotes t n.toDouble

/-- No decimal numeral starts with the mark of a radix. -/
lemma Numeral.ofText?_radix {mark : Char} {digits : List Char} {radix : Nat}
    (h : radixOf? mark = some radix) : Numeral.ofText? ('0' :: mark :: digits) = none := by
  unfold radixOf? at h
  split at h
  case h_7 => cases h
  all_goals rfl

lemma numberOfLiteral_radix {mark : Char} {digits : List Char} {radix : Nat}
    (h : radixOf? mark = some radix) :
    numberOfLiteral ('0' :: mark :: digits) =
      ((radixNumber? radix digits).map fun n => Double.ofInt n).getD .nan := by
  unfold numberOfLiteral
  rw [if_neg (by rintro (h | h) <;> cases h), if_neg (by intro h; cases h)]
  simp only [h, List.drop_succ_cons, List.drop_zero]
  cases radixNumber? radix digits <;> rfl

/-- The infinities as they are written. -/
def infinities : List (List Char) := ["Infinity".toList, "+Infinity".toList, "-Infinity".toList]

lemma mem_infinities_iff {t : List Char} : t ∈ infinities
    ↔ t = "Infinity".toList ∨ t = "+Infinity".toList ∨ t = "-Infinity".toList := by
  simp only [infinities, List.mem_cons, List.not_mem_nil, or_false]

/-- A text without a mark for a radix that is no infinity is read as a decimal numeral. -/
lemma numberOfLiteral_decimal {t : List Char} (hinf : t ∉ infinities)
    (hradix : ∀ mark digits, t = '0' :: mark :: digits → radixOf? mark = none) :
    numberOfLiteral t = ((Numeral.ofText? t).map Numeral.toDouble).getD .nan := by
  rw [mem_infinities_iff, not_or, not_or] at hinf
  unfold numberOfLiteral
  rw [if_neg (not_or.2 ⟨hinf.1, hinf.2.1⟩), if_neg hinf.2.2]
  split
  · rename_i mark digits
    rw [hradix mark digits rfl]
    cases Numeral.ofText? ('0' :: mark :: digits) <;> rfl
  · cases Numeral.ofText? t <;> rfl

lemma isNaN_of_denotes {t : List Char} {x : Double} (h : Denotes t x) : x.isNaN = false := by
  cases h with
  | infinity | plusInfinity | minusInfinity => rfl
  | radix => rfl
  | decimal => exact Double.isNaN_ofDecimal ..

lemma numberOfLiteral_of_denotes {t : List Char} {x : Double} (h : Denotes t x) :
    numberOfLiteral t = x := by
  cases h with
  | infinity => rfl
  | plusInfinity => rfl
  | minusInfinity => rfl
  | radix hr hn => rw [numberOfLiteral_radix hr, hn]; rfl
  | decimal h =>
    -- the other two forms are tried before the numeral, which has neither
    rw [numberOfLiteral_decimal, h]
    · rfl
    · intro ht
      rcases mem_infinities_iff.1 ht with rfl | rfl | rfl <;> cases h
    · rintro mark digits rfl
      cases hr : radixOf? mark with
      | none => rfl
      | some radix =>
        rw [Numeral.ofText?_radix hr] at h
        cases h

lemma denotes_numberOfLiteral {t : List Char} (h : (numberOfLiteral t).isNaN = false) :
    Denotes t (numberOfLiteral t) := by
  by_cases hinf : t ∈ infinities
  · rcases mem_infinities_iff.1 hinf with rfl | rfl | rfl
    · exact .infinity
    · exact .plusInfinity
    · exact .minusInfinity
  by_cases hradix : ∃ mark digits radix, t = '0' :: mark :: digits ∧ radixOf? mark = some radix
  · obtain ⟨mark, digits, radix, rfl, hr⟩ := hradix
    rw [numberOfLiteral_radix hr] at h ⊢
    cases hn : radixNumber? radix digits with
    | none => simp [hn, Double.isNaN] at h
    | some n => exact .radix hr hn
  · have hnone : ∀ mark digits, t = '0' :: mark :: digits → radixOf? mark = none := by
      intro mark digits ht
      refine Option.eq_none_iff_forall_ne_some.2 fun radix hr => ?_
      exact hradix ⟨mark, digits, radix, ht, hr⟩
    rw [numberOfLiteral_decimal hinf hnone] at h ⊢
    cases hn : Numeral.ofText? t with
    | none => simp [hn, Double.isNaN] at h
    | some n => exact .decimal hn

/-- The reader of literals finds the number that a text denotes, and what is not a number for a text
that denotes none. -/
theorem denotes_iff {t : List Char} {x : Double} :
    Denotes t x ↔ numberOfLiteral t = x ∧ x.isNaN = false := by
  constructor
  · exact fun h => ⟨numberOfLiteral_of_denotes h, isNaN_of_denotes h⟩
  · rintro ⟨rfl, h⟩
    exact denotes_numberOfLiteral h

/-! ## White space -/

/-- Nothing is left of a text after trimming exactly when it is blank. -/
lemma Text.trim_eq_nil_iff {s : List Char} : Text.trim s = [] ↔ Text.isBlank s = true := by
  rw [trim, trimEnd, trimStart, List.reverse_eq_nil_iff, List.dropWhile_eq_nil_iff, isBlank,
    List.all_eq_true]
  constructor
  · intro h
    rw [← List.dropWhile_eq_nil_iff]
    by_contra hne
    have hfirst := List.head_dropWhile_not isWhite hne
    rw [h _ (List.mem_reverse.2 (List.head_mem hne))] at hfirst
    cases hfirst
  · intro h c hc
    exact h c ((List.dropWhile_sublist isWhite).mem (List.mem_reverse.1 hc))

/-- Blank text denotes no number, although it reads as zero. -/
lemma not_denotes_of_isBlank {s : List Char} (h : Text.isBlank s = true) (x : Double) :
    ¬ Denotes (Text.trim s) x := by
  rw [Text.trim_eq_nil_iff.2 h, denotes_iff]
  rintro ⟨rfl, hx⟩
  cases hx

end GridRules
