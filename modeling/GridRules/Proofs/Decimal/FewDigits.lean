import GridRules.Proofs.Decimal.PlainText
import GridRules.Proofs.Double.Exact
import GridRules.Proofs.Text.Digits

/-!
# Numerals of few digits

A numeral of at most fifteen digits, those of all places counted, goes through a double unharmed: it
is read, and the double is rounded to the digits of the numeral (`Numeral.exists_digits`).  So the
number of such a numeral is written with its own digits (`DecimalFormat.format_numeral`).  What may
change are the zeros at the end of the fraction, which are dropped, and a minus before a lone zero,
which is not written (`keptSign`).
-/

namespace GridRules

open Text (Digits IsWhole)

/-! ## Zeros at the end of a fraction -/

section EndZeros

lemma dropEndZeros_append_zeros (ds : List Char) (zeros : Nat) :
    dropEndZeros (ds ++ List.replicate zeros '0') = dropEndZeros ds := by
  have hzeros : ∀ c ∈ List.replicate zeros '0', (c == '0') = true := fun c hc => by
    rw [(List.mem_replicate.1 hc).2]
    rfl
  rw [dropEndZeros, List.reverse_append, List.reverse_replicate,
    List.dropWhile_append_of_pos hzeros, dropEndZeros]

lemma dropEndZeros_concat {c : Char} (hc : c ≠ '0') (ds : List Char) :
    dropEndZeros (ds ++ [c]) = ds ++ [c] := by
  have hkeep : ¬ (c == '0') = true := by simpa using hc
  rw [dropEndZeros, List.reverse_append, List.reverse_singleton, List.singleton_append,
    List.dropWhile_cons_of_neg (p := (· == '0')) hkeep, List.reverse_cons, List.reverse_reverse]

end EndZeros

/-! ## Numerals of few digits -/

/-- The digits of a fraction with zeros up to a number of places. -/
def padFraction (places : Nat) (fraction : List Char) : List Char :=
  fraction ++ List.replicate (places - fraction.length) '0'

lemma length_padFraction {places : Nat} {fraction : List Char} (h : fraction.length ≤ places) :
    (padFraction places fraction).length = places := by
  rw [padFraction, List.length_append, List.length_replicate, Nat.add_sub_cancel' h]

lemma digits_padFraction {fraction : List Char} (h : Digits fraction) (places : Nat) :
    Digits (padFraction places fraction) := by
  intro c hc
  rcases List.mem_append.1 hc with hc | hc
  · exact h c hc
  · rw [(List.mem_replicate.1 hc).2]
    rfl

namespace Numeral

variable {places : Nat} {whole fraction : List Char}

/-- A numeral of at most fifteen digits is read as a double that is rounded to the digits of the
numeral. -/
lemma exists_digits (hwhole : IsWhole whole) (hfraction : Digits fraction)
    (hlength : fraction.length ≤ places) (hfew : whole.length + places ≤ 15) (negative : Bool) :
    ∃ y : Magnitude, toDouble ⟨negative, whole, fraction, 0⟩ = .signed negative y
      ∧ y.isFinite = true ∧ y.wholeDigits places = whole
      ∧ y.fractionDigits places = padFraction places fraction := by
  have hpad := length_padFraction hlength
  have hdigits := digits_padFraction hfraction places
  have hnumber : Text.ofDigits (whole ++ fraction) * 10 ^ (places - fraction.length)
      = Text.ofDigits (whole ++ padFraction places fraction) := by
    rw [padFraction, ← List.append_assoc, Text.ofDigits_append_zeros]
    rfl
  have hlt : Text.ofDigits (whole ++ padFraction places fraction) < 10 ^ 15 := by
    have hall : Digits (whole ++ padFraction places fraction) :=
      List.forall_mem_append.2 ⟨hwhole.digits, hdigits⟩
    refine (Text.ofDigits_lt hall).trans_le (Nat.pow_le_pow_right (by decide) ?_)
    rw [List.length_append, hpad]
    exact hfew
  obtain ⟨y, hy, hfinite, hscaled⟩ := Double.exists_exact (hnumber ▸ hlt)
    (show fraction.length + (places - fraction.length) ≤ 20 by omega) negative
  rw [Nat.add_sub_cancel' hlength, hnumber, Text.ofDigits_append, hpad, Nat.pow_eq] at hscaled
  have hsmall : Text.ofDigits (padFraction places fraction) < 10 ^ places := by
    simpa [hpad] using Text.ofDigits_lt hdigits
  refine ⟨y, ?_, hfinite, ?_, ?_⟩
  · rw [toDouble_plain negative whole (by omega), hy]
  · rw [Magnitude.wholeDigits, hscaled, Nat.pow_eq, Nat.mul_add_div (Nat.pow_pos (by decide)),
      Nat.div_eq_of_lt hsmall, Nat.add_zero, Text.digits_ofDigits hwhole]
  · rw [Magnitude.fractionDigits, hscaled, Nat.pow_eq, Nat.mul_add_mod, Nat.mod_eq_of_lt hsmall]
    split
    · rename_i hzero
      rw [hzero] at hpad
      rw [hzero, List.length_eq_zero_iff.1 hpad]
    · rename_i hne
      have hsome : padFraction places fraction ≠ [] := by
        rw [← List.length_pos_iff, hpad]
        exact Nat.pos_of_ne_zero hne
      have hpadded := Text.padded_ofDigits hdigits hsome
      rwa [hpad] at hpadded

end Numeral

/-- The sign that is left of a numeral whose digits before the point are complete: a minus before a
lone zero is lost. -/
def keptSign (negative : Bool) (whole : List Char) : Bool := negative && whole != ['0']

lemma keptSign_of_ne {whole : List Char} (h : whole ≠ ['0']) (negative : Bool) :
    keptSign negative whole = negative := by
  rw [keptSign, bne_iff_ne.2 h, Bool.and_true]

lemma keptSign_zero (negative : Bool) : keptSign negative ['0'] = false := by
  rw [keptSign, bne_self_eq_false, Bool.and_false]

lemma keptSign_keptSign (negative : Bool) (whole : List Char) :
    keptSign (keptSign negative whole) whole = keptSign negative whole := by
  rw [keptSign, keptSign, Bool.and_assoc, Bool.and_self]

namespace DecimalFormat

variable {f : DecimalFormat} {whole fraction : List Char}

/-! ## Writing the number of a numeral -/

lemma isShownAsZero_eq_false {y : Magnitude} {places : Nat} (hwhole : IsWhole whole)
    (hne : whole ≠ ['0']) (hy : y.wholeDigits places = whole) :
    y.isShownAsZero places = false := by
  obtain ⟨c, rest, rfl⟩ := List.exists_cons_of_ne_nil hwhole.ne_nil
  have hc : (c == '0') = false := by
    rw [beq_eq_false_iff_ne]
    rintro rfl
    exact hne (hwhole.eq_zero rfl)
  rw [Magnitude.isShownAsZero, hy, List.all_cons, hc, Bool.false_and, Bool.false_and]

/-- The number of a numeral of few digits is written with these digits, without zeros at the end of
the fraction.  The sign is the one that is left where no fraction follows, and stays where it is
left already. -/
lemma format_numeral (hwhole : IsWhole whole) (hfraction : Digits fraction)
    (hlength : fraction.length ≤ f.places) (hfew : whole.length + f.places ≤ 15) {negative : Bool}
    (hsign : fraction = [] ∨ keptSign negative whole = negative) :
    f.format (Numeral.toDouble ⟨negative, whole, fraction, 0⟩)
      = f.written (keptSign negative whole) whole (dropEndZeros fraction) := by
  obtain ⟨y, hy, hfinite, hyw, hyf⟩ :=
    Numeral.exists_digits hwhole hfraction hlength hfew negative
  have hshown : y.shownFraction f.places = dropEndZeros fraction := by
    rw [Magnitude.shownFraction, hyf, padFraction, dropEndZeros_append_zeros]
  rw [hy, format_signed f negative hfinite, hyw, hshown]
  congr 1
  by_cases hzero : whole = ['0']
  · subst hzero
    rw [keptSign_zero] at hsign ⊢
    rcases hsign with rfl | rfl
    · rw [Magnitude.isShownAsZero, hyw, hshown]
      exact Bool.and_false negative
    · rfl
  · rw [isShownAsZero_eq_false hwhole hzero hyw, keptSign_of_ne hzero, Bool.not_false,
      Bool.and_true]

end DecimalFormat

end GridRules
