import GridRules.Proofs.Decimal.Formattable
import GridRules.Proofs.Decimal.LeadingNumeral

/-!
# Digits that are kept when a text is written anew

A text that may be written anew denotes a number exactly, and what is written is the rounding of the
double nearest to it.  So the new text denotes the same number exactly when the double is rounded
back to it.  That holds as long as no more than fifteen digits are counted, those of all places
included (`Numeral.rounded_toDouble`).

With more places than that, or with more digits before the point, the digits of the double come to
light, even where the text has a single one.
-/

namespace GridRules

open Text (Digits)

lemma Double.rounded_signed (negative : Bool) (m : Magnitude) (places : ℕ) :
    rounded (.signed negative m) places = signFactor negative * m.rounded places := by
  cases negative <;> simp [rounded, signFactor]

namespace Numeral

variable {n : Numeral} {places : ℕ}

/-- A numeral of at most fifteen digits, those of all places counted, is read as a finite double
that is rounded to its number. -/
lemma rounded_toDouble (hexponent : n.exponent = 0) (hlength : n.fraction.length ≤ places)
    (hplaces : places ≤ 20) (hfew : |n.number| * 10 ^ places < 10 ^ 15) :
    n.toDouble.isFinite = true ∧ n.toDouble.rounded places = n.number := by
  obtain ⟨negative, whole, fraction, exponent⟩ := n
  obtain rfl : exponent = 0 := hexponent
  dsimp only at *
  have hten : (10 : ℚ) ≠ 0 := by norm_num
  have hscale : ∀ c : ℚ, c * 10 ^ (-(fraction.length : ℤ)) * 10 ^ places
      = c * 10 ^ (places - fraction.length) := by
    intro c
    rw [mul_assoc, ← zpow_natCast, ← zpow_add₀ hten, ← zpow_natCast]
    congr 2
    omega
  have hnumber : number ⟨negative, whole, fraction, 0⟩ = Double.signFactor negative
      * (Text.ofDigits (whole ++ fraction) * 10 ^ (-(fraction.length : ℤ))) := by
    rw [number_eq, scale, Int.zero_sub]
    rfl
  have hdigits : Text.ofDigits (whole ++ fraction) * 10 ^ (places - fraction.length) < 10 ^ 15 := by
    rw [abs_number, scale, Int.zero_sub, hscale, coefficient] at hfew
    exact_mod_cast hfew
  obtain ⟨y, hy, hfinite, hscaled⟩ := Double.exists_exact hdigits
    (show fraction.length + (places - fraction.length) ≤ 20 by omega) negative
  rw [Nat.add_sub_cancel' hlength] at hscaled
  rw [toDouble_plain negative whole (by omega), hy, Double.rounded_signed, hnumber]
  refine ⟨hfinite, congrArg (Double.signFactor negative * ·) ?_⟩
  rw [Magnitude.rounded, hscaled, div_eq_iff (by positivity), hscale]
  push_cast
  rfl

end Numeral

namespace DecimalFormat

variable {f : DecimalFormat} {s : List Char} {n : Numeral} {x : Double} {q : ℚ}

/-- A text that is a number has a number at its front. -/
lemma parse_ne_none_of_denoted? (h : f.denoted? s = some q) : f.parse s ≠ none := by
  intro hparse
  rw [parse, Option.map_eq_none_iff, Numeral.read?_trimStart_eq_none_iff] at hparse
  obtain ⟨n, hn, -⟩ := Option.map_eq_some_iff.1 h
  unfold Numeral.ofText? at hn
  split at hn
  · rename_i hread
    obtain ⟨p, hp, hspells⟩ := Numeral.exists_spells_of_read? hread
    exact hparse ⟨[], p, [], _, hp, List.forall_mem_nil _, hspells⟩
  · cases hn

/-- A text that is read in full denotes the number of its numeral. -/
lemma IsReadInFull.denoted?_eq (h : f.IsReadInFull s n) : f.denoted? s = some n.number := by
  have hread := h.read?_eq
  rw [h.normalize_eq, Numeral.trimStart_plain _ h.digits_whole h.digits_fraction,
    ← h.normalize_eq] at hread
  rw [denoted?, Numeral.ofText?, hread]
  rfl

/-- The text of an infinite number denotes no number. -/
lemma denoted?_format_infinite (hf : f.Lawful) (negative : Bool) {m : Magnitude}
    (hm : m.isFinite = false) : f.denoted? (f.format (.signed negative m)) = none := by
  rw [denoted?, format_infinite f negative hm,
    normalize_of_not_mem (fun h => (hf.ne_of_mem_infinity negative h).1 rfl)
      fun h => (hf.ne_of_mem_infinity negative h).2 rfl]
  cases negative <;> rfl

lemma isFormattable_none {typed : Option String} {cursorAtEnd : Bool}
    (h : f.isFormattable s typed cursorAtEnd = true) : f.isFormattable s none true = true := by
  rw [isFormattable_eq] at h ⊢
  split at h
  · cases h
  · rename_i hnot
    rw [if_neg (by simp [(not_or.1 hnot).1])]
    exact h

/-- A number has at most so many significant digits: it is a whole number of that many digits times
a power of ten. -/
def IsSignificant (digits : ℕ) (q : ℚ) : Prop := ∃ c e : ℤ, |c| < 10 ^ digits ∧ q = c * 10 ^ e

/-- Writing a text anew keeps its number exactly when the nearest double is rounded back to it.  In
any locale and with any number of places, a text that may be written anew and denotes a number is
read as a double, a finite one below the least number that is read as infinity.  A greater number
is lost.  A finite double is nearest to the number, and the new text denotes the same number
exactly when the double is rounded to it.  It always does when the places of the text suffice and no
more than fifteen digits are counted, those of all places included. -/
theorem formatInput_keeps_number_iff (code : String) (places : ℕ) (s : List Char)
    (typed : Option String) (cursorAtEnd : Bool) (q : ℚ)
    (hformattable : (new code places).isFormattable s typed cursorAtEnd = true)
    (hnumber : (new code places).denoted? s = some q) :
    let f := new code places
    ∃ x, f.parse s = some x
      ∧ (leastInfinite ≤ |q| → f.denoted? (f.formatInput s) = none)
      ∧ (|q| < leastInfinite → x.IsNearest q
        ∧ (f.denoted? (f.formatInput s) = some q ↔ RoundsTo f.places x.toRat q))
      ∧ (f.countDecimals s ≤ f.places → |q| * 10 ^ f.places < 10 ^ 15 →
        f.denoted? (f.formatInput s) = some q) := by
  intro f
  have hf : f.Lawful := lawful_new code places
  obtain ⟨n, hn⟩ : ∃ n, f.IsReadInFull s n := by
    rcases isReadInFull_or_parse_eq_none hf hformattable with ⟨-, hn⟩ | ⟨-, hnone⟩
    · exact hn
    · exact absurd hnone (parse_ne_none_of_denoted? hnumber)
  obtain rfl : n.number = q := Option.some.inj (hn.denoted?_eq.symm.trans hnumber)
  have htext : f.formatInput s = f.format n.toDouble :=
    formatInput_of_parse (isFormattable_none hformattable) hn.parse_eq
  have hfinite := n.isFinite_toDouble_iff
  obtain ⟨m, hm⟩ := n.exists_toDouble_eq
  have hdenoted : n.toDouble.isFinite = true →
      f.denoted? (f.formatInput s) = some (n.toDouble.rounded f.places) := by
    intro h
    rw [htext, hm]
    rw [hm] at h
    exact denoted?_format hf n.negative h
  refine ⟨n.toDouble, hn.parse_eq, ?_, ?_, ?_⟩
  · intro hlarge
    have hinfinite := mt hfinite.1 (not_lt.2 hlarge)
    rw [hm] at hinfinite
    rw [htext, hm, denoted?_format_infinite hf _ (Bool.eq_false_iff.2 hinfinite)]
  · intro hsmall
    have hx := hfinite.2 hsmall
    have hround := Double.roundsTo_rounded hx f.places
    refine ⟨n.isNearest_toDouble hx, ?_⟩
    rw [hdenoted hx, Option.some_inj]
    constructor
    · intro h
      rwa [h] at hround
    · intro h
      exact h.unique hround
  · intro hlength hfew
    have hcount : n.fraction.length ≤ f.places := by
      rwa [hn.fraction_eq]
    obtain ⟨hx, hrounded⟩ :=
      Numeral.rounded_toDouble hn.exponent_eq hcount (places_new_le code places) hfew
    rw [hdenoted hx, hrounded]

/-- In the German locale with two places, a negative number of thirteen digits, which is put in
groups and stays the number it is. -/
theorem german_number_of_thirteen_digits_kept :
    let f := new "de-DE" 2
    let s := "-12345678901,25".toList
    f.isFormattable s (some "5") true = true ∧ f.denoted? s = some (-1234567890125 / 100)
      ∧ f.formatInput s = "-12.345.678.901,25".toList
      ∧ f.denoted? (f.formatInput s) = some (-1234567890125 / 100) := by
  intro f s
  have hformattable : f.isFormattable s (some "5") true = true := by decide
  have hnumber : f.denoted? s = some (-1234567890125 / 100) := by
    have hread : Numeral.ofText? (f.normalize s)
        = some ⟨true, "12345678901".toList, "25".toList, 0⟩ := by decide
    rw [denoted?, hread]
    decide +kernel
  obtain ⟨x, -, -, -, hfew⟩ :=
    formatInput_keeps_number_iff "de-DE" 2 s (some "5") true _ hformattable hnumber
  exact ⟨hformattable, hnumber, by decide +kernel, hfew (by decide) (by decide +kernel)⟩

/-- With twenty places the digits of the double nearest to a tenth are written, and no other digit
may be typed behind them; with two places, those of a double near a hundred trillion. -/
theorem digits_of_double_written :
    let fine := new "en-US" 20
    let coarse := new "en-US" 2
    (fine.isFormattable "0.1".toList (some "1") true = true
      ∧ fine.denoted? "0.1".toList = some (1 / 10) ∧ IsSignificant 1 (1 / 10)
      ∧ fine.countDecimals "0.1".toList ≤ fine.places
      ∧ fine.formatInput "0.1".toList = "0.10000000000000000555".toList
      ∧ fine.denoted? (fine.formatInput "0.1".toList) ≠ some (1 / 10)
      ∧ fine.isInputAllowed "5" (fine.formatInput "0.1".toList) true = false)
      ∧ coarse.isFormattable "99999999999999.1".toList (some "1") true = true
      ∧ coarse.denoted? "99999999999999.1".toList = some (999999999999991 / 10)
      ∧ IsSignificant 15 (999999999999991 / 10)
      ∧ coarse.countDecimals "99999999999999.1".toList ≤ coarse.places
      ∧ coarse.formatInput "99999999999999.1".toList = "99,999,999,999,999.09".toList
      ∧ coarse.denoted? (coarse.formatInput "99999999999999.1".toList)
        ≠ some (999999999999991 / 10) := by
  intro fine coarse
  have htenth : fine.formatInput "0.1".toList = "0.10000000000000000555".toList := by
    decide +kernel
  have hmany : coarse.formatInput "99999999999999.1".toList = "99,999,999,999,999.09".toList := by
    decide +kernel
  have hone : IsSignificant 1 (1 / 10) := ⟨1, -1, by decide, by norm_num⟩
  have hfifteen : IsSignificant 15 (999999999999991 / 10) :=
    ⟨999999999999991, -1, by decide, by norm_num⟩
  refine ⟨⟨by decide, by decide +kernel, hone, by decide, htenth, ?_, ?_⟩, by decide,
    by decide +kernel, hfifteen, by decide, hmany, ?_⟩
  · rw [htenth]
    decide +kernel
  · rw [htenth]
    decide +kernel
  · rw [hmany]
    decide +kernel

end DecimalFormat

end GridRules
