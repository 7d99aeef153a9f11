import GridRules.Proofs.Decimal.Written
import GridRules.Proofs.Double.Fixed

/-!
# Writing numbers anew

A number that was written in a locale may be written anew, and the text stays.  The text has the
digits of the number rounded to the places of the format (`DecimalFormat.format_signed`), what is
read from it is the double nearest to these digits, and that double is rounded to the same digits
(`Double.exists_read_back`).  So a text that was written anew once is left as it is from then on.
-/

namespace GridRules

open Text (Digits)

/-! ## The digits of a magnitude -/

namespace Magnitude

lemma digits_wholeDigits (m : Magnitude) (places : Nat) : Digits (m.wholeDigits places) :=
  fun _ hc => Text.isDigit_of_mem_digits hc

lemma wholeDigits_ne_nil (m : Magnitude) (places : Nat) : m.wholeDigits places ≠ [] :=
  Text.digits_ne_nil _

lemma digits_fractionDigits (m : Magnitude) (places : Nat) : Digits (m.fractionDigits places) := by
  intro c hc
  rw [fractionDigits] at hc
  split at hc
  · cases hc
  · exact Text.isDigit_of_mem_padded hc

lemma length_fractionDigits (m : Magnitude) (places : Nat) :
    (m.fractionDigits places).length = places := by
  rw [fractionDigits]
  split
  · rename_i hzero
    exact hzero.symm
  · rename_i hne
    exact Text.length_padded (Nat.pos_of_ne_zero hne) (Nat.mod_lt _ (Nat.pow_pos (by decide)))

/-- The digits before and after the point are those of the rounded magnitude. -/
lemma ofDigits_fixed (m : Magnitude) (places : Nat) :
    Text.ofDigits (m.wholeDigits places ++ m.fractionDigits places) = m.scaled places := by
  rw [Text.ofDigits_append, length_fractionDigits, wholeDigits, Text.ofDigits_digits,
    fractionDigits]
  split
  · rename_i hzero
    have hnil : Text.ofDigits [] = 0 := rfl
    rw [hnil, hzero, Nat.pow_eq, Nat.pow_zero, Nat.one_mul, Nat.div_one, Nat.add_zero]
  · rw [Text.ofDigits_padded, Nat.pow_eq]
    exact Nat.div_add_mod _ _

/-- The digits after the point that are shown, without the zeros at their end. -/
def shownFraction (m : Magnitude) (places : Nat) : List Char :=
  dropEndZeros (m.fractionDigits places)

lemma digits_shownFraction (m : Magnitude) (places : Nat) : Digits (m.shownFraction places) :=
  (m.digits_fractionDigits places).dropEndZeros

/-- The digits that are shown are those of the rounded magnitude without zeros at their end. -/
lemma exists_shownFraction (m : Magnitude) (places : Nat) :
    ∃ zeros, (m.shownFraction places).length + zeros = places
      ∧ Text.ofDigits (m.wholeDigits places ++ m.shownFraction places) * 10 ^ zeros
        = m.scaled places := by
  obtain ⟨zeros, hzeros⟩ := exists_dropEndZeros (m.fractionDigits places)
  refine ⟨zeros, ?_, ?_⟩
  · have hlength := congrArg List.length hzeros
    rw [length_fractionDigits, List.length_append, List.length_replicate] at hlength
    exact hlength.symm
  · have hfixed := m.ofDigits_fixed places
    rw [hzeros, ← List.append_assoc, Text.ofDigits_append_zeros] at hfixed
    exact hfixed

lemma length_shownFraction_le (m : Magnitude) (places : Nat) :
    (m.shownFraction places).length ≤ places := by
  obtain ⟨zeros, hlength, -⟩ := m.exists_shownFraction places
  exact Nat.le.intro hlength

/-- Whether no digit but zero is shown. -/
def isShownAsZero (m : Magnitude) (places : Nat) : Bool :=
  (m.wholeDigits places).all (· == '0') && (m.shownFraction places).isEmpty

/-- What is shown of a magnitude depends on the rounded magnitude only. -/
lemma shown_congr {m y : Magnitude} {places : Nat} (h : y.scaled places = m.scaled places) :
    y.wholeDigits places = m.wholeDigits places ∧ y.shownFraction places = m.shownFraction places
      ∧ y.isShownAsZero places = m.isShownAsZero places := by
  have hwhole : y.wholeDigits places = m.wholeDigits places := by
    rw [wholeDigits, wholeDigits, h]
  have hfraction : y.shownFraction places = m.shownFraction places := by
    rw [shownFraction, shownFraction, fractionDigits, fractionDigits, h]
  exact ⟨hwhole, hfraction, by rw [isShownAsZero, isShownAsZero, hwhole, hfraction]⟩

end Magnitude

namespace DecimalFormat

variable {f : DecimalFormat} {m : Magnitude}

/-! ## The text of a number -/

/-- A finite number is written with the digits that are shown of its magnitude, and with its sign
unless it is shown as zero. -/
lemma format_signed (f : DecimalFormat) (negative : Bool) (hm : m.isFinite = true) :
    f.format (.signed negative m) = f.written (negative && !m.isShownAsZero f.places)
      (m.wholeDigits f.places) (m.shownFraction f.places) := by
  have hfinite : ¬ (!m.isFinite) = true := by simp [hm]
  rw [format, if_neg hfinite, written, Magnitude.isShownAsZero, Magnitude.shownFraction]
  dsimp only
  generalize dropEndZeros (m.fractionDigits f.places) = fraction
  have htext : (if fraction = [] then groupDigits f.thousands (m.wholeDigits f.places)
      else groupDigits f.thousands (m.wholeDigits f.places) ++ f.decimal :: fraction)
      = groupDigits f.thousands (m.wholeDigits f.places)
        ++ if fraction = [] then [] else f.decimal :: fraction := by
    split
    · rw [List.append_nil]
    · rfl
  rw [htext]
  split
  · rfl
  · rfl

lemma format_infinite (f : DecimalFormat) (negative : Bool) (hm : m.isFinite = false) :
    f.format (.signed negative m) = (if negative then ['-'] else []) ++ ['∞'] := by
  have hinfinite : (!m.isFinite) = true := by simp [hm]
  rw [format, if_pos hinfinite]
  cases negative <;> rfl

/-- No separator stands in the text of an infinite number. -/
lemma Lawful.ne_of_mem_infinity (hf : f.Lawful) (negative : Bool) {c : Char}
    (h : c ∈ (if negative then ['-'] else []) ++ ['∞']) : c ≠ f.thousands ∧ c ≠ f.decimal := by
  have hnumber : ((if negative then ['-'] else []) ++ ['∞']).all isNumberChar = true := by
    cases negative <;> rfl
  exact hf.ne_of_isNumberChar (List.all_eq_true.1 hnumber c h)

/-- What is read from the text of a finite number is finite and is rounded to the same digits; its
sign is the one that is shown. -/
lemma exists_parse_format (hf : f.Lawful) (hplaces : f.places ≤ 330) (negative : Bool)
    (hm : m.isFinite = true) : ∃ y : Magnitude, f.parse (f.format (.signed negative m))
        = some (.signed (negative && !m.isShownAsZero f.places) y)
      ∧ y.isFinite = true ∧ y.scaled f.places = m.scaled f.places := by
  generalize hsign : (negative && !m.isShownAsZero f.places) = shown
  obtain ⟨zeros, hlength, hdigits⟩ := m.exists_shownFraction f.places
  generalize hwhole : m.wholeDigits f.places = whole at hdigits
  generalize hfraction : m.shownFraction f.places = fraction at hlength hdigits
  have hdecimal : Text.ofDigits (whole ++ fraction) * 10 ^ zeros
      = m.scaled (fraction.length + zeros) := by
    rw [hlength, hdigits]
  obtain ⟨y, hy, hfinite, hscaled⟩ := Double.exists_read_back hm hdecimal shown
  rw [hlength] at hscaled
  refine ⟨y, ?_, hfinite, hscaled⟩
  -- the digits that are read are the coefficient; those after the point tell the power of ten
  have hnumber : Numeral.toDouble ⟨shown, whole, fraction, 0⟩ = .signed shown y := by
    rw [← hy, ← Double.ofDecimal_neg shown _ (by omega), ← Int.zero_sub]
    rfl
  rw [format_signed f negative hm, hsign, hwhole, hfraction, parse_written hf shown, hnumber]
  · exact hwhole ▸ m.digits_wholeDigits f.places
  · exact hwhole ▸ m.wholeDigits_ne_nil f.places
  · exact hfraction ▸ m.digits_shownFraction f.places

/-- The text of a finite number is formattable, and the number read from it is finite and has the
same text. -/
lemma exists_format_eq (hf : f.Lawful) (hplaces : f.places ≤ 330) {x : Double}
    (hx : x.isFinite = true) : f.isFormattable (f.format x) none true = true
      ∧ ∃ y, f.parse (f.format x) = some y ∧ y.isFinite = true ∧ f.format y = f.format x := by
  cases x with
  | nan => cases hx
  | signed negative m =>
    obtain ⟨y, hparse, hfinite, hscaled⟩ := exists_parse_format hf hplaces negative hx
    refine ⟨?_, _, hparse, hfinite, ?_⟩
    · rw [format_signed f negative hx]
      exact isFormattable_written hf _ (m.digits_wholeDigits _) (m.wholeDigits_ne_nil _)
        (m.digits_shownFraction _)
    · -- the sign that was read is the one that is shown, so it is shown again
      obtain ⟨hwhole, hfraction, hzero⟩ := Magnitude.shown_congr hscaled
      rw [format_signed f _ hfinite, format_signed f negative hx, hwhole, hfraction, hzero,
        Bool.and_assoc, Bool.and_self]

lemma parse_isNaN {s : List Char} {x : Double} (h : f.parse s = some x) : x.isNaN = false := by
  obtain ⟨⟨n, rest⟩, -, rfl⟩ := Option.map_eq_some_iff.1 h
  exact Double.isNaN_ofDecimal _ _ _

lemma formatInput_of_parse {s : List Char} {x : Double} (h : f.isFormattable s none true = true)
    (hparse : f.parse s = some x) : f.formatInput s = f.format x := by
  rw [formatInput, if_pos h, formatText, hparse]
  rfl

/-- A text that was written anew is left as it is: it is not formattable, or the text of a finite
number, or that of an infinite one. -/
lemma formatInput_formatInput (hf : f.Lawful) (hplaces : f.places ≤ 330) (s : List Char) :
    f.formatInput (f.formatInput s) = f.formatInput s := by
  by_cases hs : f.isFormattable s none true = true
  · cases hparse : f.parse s with
    | none =>
      have hsame : f.formatInput s = s := by
        rw [formatInput, if_pos hs, formatText, hparse]
        rfl
      rw [hsame, hsame]
    | some x =>
      rw [formatInput_of_parse hs hparse]
      cases x with
      | nan => cases parse_isNaN hparse
      | signed negative m =>
        cases hm : m.isFinite with
        | true =>
          obtain ⟨hformattable, y, hy, -, hsame⟩ :=
            exists_format_eq hf hplaces (x := .signed negative m) hm
          rw [formatInput_of_parse hformattable hy]
          exact hsame
        | false =>
          rw [format_infinite f negative hm, formatInput, isFormattable_infinity hf]
          rfl
  · have hsame : f.formatInput s = s := by rw [formatInput, if_neg hs]
    rw [hsame, hsame]

/-- In any locale and with any number of places, the text of a finite number may be written anew,
the number read from it is finite, and the text of that number is the text again.  So writing any
text anew twice is the same as writing it anew once. -/
theorem written_numbers_are_fixed_points (code : String) (places : Nat) :
    (∀ x : Double, x.isFinite = true →
      (new code places).isFormattable ((new code places).format x) none true = true
        ∧ ∃ y, (new code places).parse ((new code places).format x) = some y
          ∧ y.isFinite = true ∧ (new code places).format y = (new code places).format x)
      ∧ ∀ s : List Char, (new code places).formatInput ((new code places).formatInput s)
        = (new code places).formatInput s := by
  have hf := lawful_new code places
  have hplaces : (new code places).places ≤ 330 := (places_new_le code places).trans (by decide)
  exact ⟨fun x hx => exists_format_eq hf hplaces hx, formatInput_formatInput hf hplaces⟩

/-- In the German locale with two places, a number half a step away from two decimals, and a text
that is written anew. -/
theorem german_text_is_fixed :
    let f := new "de-DE" 2
    let x := Double.ofDecimal true 1234125 (-3)
    x.isFinite = true ∧ f.format x = "-1.234,12".toList
      ∧ (∃ y, f.parse "-1.234,12".toList = some y ∧ f.format y = "-1.234,12".toList)
      ∧ f.formatInput "0012345,60".toList = "12.345,6".toList
      ∧ f.formatInput "12.345,6".toList = "12.345,6".toList := by
  intro f x
  obtain ⟨hnumbers, htexts⟩ := written_numbers_are_fixed_points "de-DE" 2
  have hx : x.isFinite = true := by decide +kernel
  have htext : f.format x = "-1.234,12".toList := by decide +kernel
  have hinput : f.formatInput "0012345,60".toList = "12.345,6".toList := by decide +kernel
  obtain ⟨-, y, hparse, -, hsame⟩ := hnumbers x hx
  rw [htext] at hparse hsame
  refine ⟨hx, htext, ⟨y, hparse, hsame⟩, hinput, ?_⟩
  have hagain := htexts "0012345,60".toList
  rw [hinput] at hagain
  exact hagain

end DecimalFormat

end GridRules
