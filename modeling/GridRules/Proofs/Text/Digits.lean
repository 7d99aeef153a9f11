import GridRules.Proofs.Text.Parts
import Mathlib.Algebra.Order.Ring.Nat
import Mathlib.Data.List.Basic
import Mathlib.Data.List.Induction

/-!
# Digits and their number

A list of digits is known by its length and its number (`ofDigits_inj`).  Without redundant zeros at
the front it is known by its number alone: it is how the number is written (`digits_ofDigits`).
-/

namespace GridRules.Text

variable {ds : List Char} {c : Char}

instance (ds : List Char) : Decidable (Digits ds) :=
  List.decidableBAll (fun c : Char => c.isDigit = true) ds

/-! ## The number of a list of digits -/

lemma digit_lt (h : c.isDigit = true) : c.toNat - '0'.toNat < 10 := by
  obtain ⟨-, hhigh⟩ := toNat_of_isDigit h
  have hzero : '0'.toNat = 48 := rfl
  omega

/-- A digit is the character of its number. -/
lemma digitChar_of_isDigit (h : c.isDigit = true) : Nat.digitChar (c.toNat - '0'.toNat) = c := by
  have hlt := digit_lt h
  obtain ⟨hlow, -⟩ := toNat_of_isDigit h
  have hzero : '0'.toNat = 48 := rfl
  refine Char.toNat_inj.1 ?_
  rw [Nat.toNat_digitChar_of_lt_ten hlt]
  omega

lemma ofDigits_singleton (c : Char) : ofDigits [c] = c.toNat - '0'.toNat := by
  rw [ofDigits, Nat.ofDigitChars_cons, Nat.ofDigitChars_nil, Nat.mul_zero, Nat.zero_add]

lemma ofDigits_concat (ds : List Char) (c : Char) :
    ofDigits (ds ++ [c]) = 10 * ofDigits ds + (c.toNat - '0'.toNat) := by
  rw [ofDigits_append, ofDigits_singleton, List.length_singleton, Nat.pow_eq, Nat.pow_one]

lemma Digits.of_concat (h : Digits (ds ++ [c])) : Digits ds ∧ c.isDigit = true :=
  ⟨fun d hd => h d (List.mem_append_left _ hd), h c (List.mem_append_right _ List.mem_cons_self)⟩

lemma ofDigits_lt (h : Digits ds) : ofDigits ds < 10 ^ ds.length := by
  induction ds using List.reverseRecOn with
  | nil => exact Nat.one_pos
  | append_singleton ds c ih =>
    have hlt := ih h.of_concat.1
    have hc := digit_lt h.of_concat.2
    rw [ofDigits_concat, List.length_append, List.length_singleton, Nat.pow_succ]
    omega

/-- Lists of digits of one length that denote the same number are equal. -/
lemma ofDigits_inj {es : List Char} (hds : Digits ds) (hes : Digits es)
    (hlength : ds.length = es.length) (h : ofDigits ds = ofDigits es) : ds = es := by
  induction ds using List.reverseRecOn generalizing es with
  | nil => exact (List.length_eq_zero_iff.1 hlength.symm).symm
  | append_singleton ds c ih =>
    rcases List.eq_nil_or_concat' es with rfl | ⟨es, d, rfl⟩
    · simp at hlength
    · have hfronts : ds.length = es.length := by simpa using hlength
      rw [ofDigits_concat, ofDigits_concat] at h
      have hc := digit_lt hds.of_concat.2
      have hd := digit_lt hes.of_concat.2
      have hfront : ds = es := ih hds.of_concat.1 hes.of_concat.1 hfronts (by omega)
      have hlast : c.toNat - '0'.toNat = d.toNat - '0'.toNat := by omega
      rw [hfront, ← digitChar_of_isDigit hds.of_concat.2, hlast,
        digitChar_of_isDigit hes.of_concat.2]

/-- Digits are the padded text of their number. -/
lemma padded_ofDigits (h : Digits ds) (hne : ds ≠ []) : padded ds.length (ofDigits ds) = ds := by
  have hlength := length_padded (List.length_pos_iff.2 hne) (ofDigits_lt h)
  exact ofDigits_inj (fun _ => isDigit_of_mem_padded) h hlength (ofDigits_padded _ _)

/-! ## Digits before the point -/

/-- Digits before a point, without redundant zeros at the front: a lone zero, or digits that start
with another one. -/
structure IsWhole (ds : List Char) : Prop where
  /-- There are digits alone. -/
  digits : Digits ds
  /-- There is a digit. -/
  ne_nil : ds ≠ []
  /-- A zero at the front is the only digit. -/
  eq_zero : ds.head? = some '0' → ds = ['0']

/-- The digits up to one of them have no redundant zeros either. -/
lemma IsWhole.take_concat {rest : List Char} (h : IsWhole (ds ++ c :: rest)) :
    IsWhole (ds ++ [c]) where
  digits d hd := h.digits d (by
    rw [List.append_cons]
    exact List.mem_append_left _ hd)
  ne_nil := by simp
  eq_zero := by
    intro hzero
    have hall := h.eq_zero (by
      rw [List.append_cons, List.head?_append, hzero]
      rfl)
    rw [List.append_cons] at hall
    have hrest : rest = [] := by
      have hlength := congrArg List.length hall
      simp only [List.length_append, List.length_cons, List.length_nil] at hlength
      exact List.length_eq_zero_iff.1 (by omega)
    rw [hrest, List.append_nil] at hall
    exact hall

/-- A zero is followed by no further digit. -/
lemma IsWhole.front_ne_zero {rest : List Char} (h : IsWhole (ds ++ c :: rest)) : ds ≠ ['0'] := by
  rintro rfl
  have hall := h.eq_zero rfl
  simp at hall

lemma IsWhole.ofDigits_pos (h : IsWhole ds) (hzero : ds ≠ ['0']) : 0 < ofDigits ds := by
  obtain ⟨c, rest, rfl⟩ := List.exists_cons_of_ne_nil h.ne_nil
  have hc : c ≠ '0' := fun heq => hzero (h.eq_zero (by rw [heq]; rfl))
  have hdigit := h.digits c List.mem_cons_self
  have hpos : 0 < c.toNat - '0'.toNat := by
    refine Nat.pos_of_ne_zero fun hnone => hc ?_
    rw [← digitChar_of_isDigit hdigit, hnone]
    rfl
  rw [← List.singleton_append, ofDigits_append, ofDigits_singleton]
  exact Nat.add_pos_left (Nat.mul_pos (Nat.pow_pos (by decide)) hpos) _

/-- Digits without redundant zeros are how their number is written. -/
lemma digits_ofDigits (h : IsWhole ds) : digits (ofDigits ds) = ds := by
  induction ds using List.reverseRecOn with
  | nil => exact absurd rfl h.ne_nil
  | append_singleton ds c ih =>
    have hc := digit_lt h.digits.of_concat.2
    have hlast : digits (c.toNat - '0'.toNat) = [c] := by
      rw [digits, Nat.toDigits_of_lt_base hc, digitChar_of_isDigit h.digits.of_concat.2]
    rw [ofDigits_concat]
    rcases List.eq_nil_or_concat' ds with rfl | ⟨front, d, rfl⟩
    · have hnone : ofDigits [] = 0 := rfl
      rw [hnone, Nat.mul_zero, Nat.zero_add, hlast, List.nil_append]
    · -- the front has no redundant zeros, and it is not zero because a digit follows
      have hlonger : IsWhole (front ++ d :: [c]) := by
        rw [List.append_cons]
        exact h
      have hfront : IsWhole (front ++ [d]) := hlonger.take_concat
      have hpos := hfront.ofDigits_pos h.front_ne_zero
      rw [digits, ← Nat.toDigits_append_toDigits (by decide) hpos hc]
      exact congrArg₂ (· ++ ·) (ih hfront) hlast

/-- A number is written without redundant zeros. -/
lemma isWhole_digits (n : Nat) : IsWhole (digits n) where
  digits _ hc := isDigit_of_mem_digits hc
  ne_nil := digits_ne_nil n
  eq_zero := by
    induction n using Nat.strongRecOn with
    | ind n ih =>
      intro hzero
      rcases Nat.lt_or_ge n 10 with hlt | hge
      · rw [digits, Nat.toDigits_of_lt_base hlt] at hzero ⊢
        exact congrArg ([·]) (Option.some.inj hzero)
      · -- the digits before the last one would be a lone zero
        have hsplit : digits n = digits (n / 10) ++ digits (n % 10) := by
          rw [digits, digits, digits, Nat.toDigits_append_toDigits (by decide) (by omega)
            (Nat.mod_lt n (by decide)), Nat.div_add_mod]
        rw [hsplit, List.head?_append_of_ne_nil _ (digits_ne_nil _)] at hzero
        have hfront := congrArg ofDigits (ih (n / 10) (by omega) hzero)
        have hnone : ofDigits ['0'] = 0 := rfl
        rw [ofDigits_digits, hnone] at hfront
        omega

lemma Digits.append_zeros (h : Digits ds) (zeros : Nat) :
    Digits (ds ++ List.replicate zeros '0') := by
  intro c hc
  rcases List.mem_append.1 hc with hc | hc
  · exact h c hc
  · rw [(List.mem_replicate.1 hc).2]
    rfl

/-- Every factor of ten writes a zero at the end of a number. -/
lemma digits_mul_pow {n : Nat} (hn : 0 < n) (zeros : Nat) :
    digits (n * 10 ^ zeros) = digits n ++ List.replicate zeros '0' := by
  have hwhole : IsWhole (digits n ++ List.replicate zeros '0') := by
    refine ⟨(isWhole_digits n).digits.append_zeros zeros,
      List.append_ne_nil_of_left_ne_nil (digits_ne_nil n) _, fun hzero => ?_⟩
    -- a positive number does not start with a zero
    rw [List.head?_append_of_ne_nil _ (digits_ne_nil n)] at hzero
    have hnone := congrArg ofDigits ((isWhole_digits n).eq_zero hzero)
    rw [ofDigits_digits] at hnone
    exact absurd hnone hn.ne'
  rw [← digits_ofDigits hwhole, ofDigits_append_zeros, ofDigits_digits]
  rfl

/-- Digits that denote zero end with a zero, if there are any. -/
lemma eq_nil_of_ofDigits_eq_zero (h : Digits ds) (hzero : ofDigits ds = 0)
    (hlast : ds.getLast? ≠ some '0') : ds = [] := by
  rcases List.eq_nil_or_concat' ds with hnil | ⟨front, c, rfl⟩
  · exact hnil
  · have hc : c.toNat - '0'.toNat = 0 := by
      rw [ofDigits_concat] at hzero
      omega
    refine absurd ?_ hlast
    rw [List.getLast?_concat, ← digitChar_of_isDigit h.of_concat.2, hc]
    rfl

end GridRules.Text
