import GridRules.Proofs.Decimal.CellNumeral

/-!
# Writing a text anew while it is typed

After an input, a text that is a number is written anew, in groups.  That rounds the number twice:
once when the new text is written, and once more when the value is taken from the new text.  The
value does not notice.  The double that is read from the new text is another one, but it is rounded
to the digits that are shown (`DecimalFormat.value_format`).

The sign is the exception.  Zero is written without a minus, so a value that has no digit but zero
loses it (`Numeral.withoutZeroSign`).
-/

namespace GridRules

open Text (Digits)

lemma dropEndZeros_eq_nil_iff {ds : List Char} : dropEndZeros ds = [] ↔ ∀ c ∈ ds, c = '0' := by
  simp [dropEndZeros]

/-- What is shown as zero has no other digit in any of its places. -/
lemma Magnitude.isShownAsZero_iff_digits (m : Magnitude) (places : ℕ) :
    m.isShownAsZero places = true
      ↔ ∀ c ∈ m.wholeDigits places ++ m.fractionDigits places, c = '0' := by
  rw [isShownAsZero, Bool.and_eq_true, List.all_eq_true, List.isEmpty_iff, shownFraction,
    dropEndZeros_eq_nil_iff, List.forall_mem_append]
  simp only [beq_iff_eq]

namespace Numeral

variable {whole fraction : List Char}

/-- A numeral, without its minus when it has no digit but zero. -/
def withoutZeroSign (s : List Char) : List Char :=
  if s.all fun c => !c.isDigit || c == '0' then DecimalFormat.withoutMinus s else s

lemma all_zero_plain_iff (negative : Bool) (hwhole : Digits whole) (hfraction : Digits fraction) :
    ((plain negative whole fraction).all fun c => !c.isDigit || c == '0') = true
      ↔ ∀ c ∈ whole ++ fraction, c = '0' := by
  have hdigit : ∀ c : Char, (!c.isDigit || c == '0') = true ↔ (c.isDigit = true → c = '0') := by
    intro c
    cases c.isDigit <;> simp
  simp only [List.all_eq_true, hdigit]
  constructor
  · intro h c hc
    rcases List.mem_append.1 hc with hc | hc
    · exact h c (List.mem_append_right _ (List.mem_append_left _ hc)) (hwhole c hc)
    · refine h c (List.mem_append_right _ (List.mem_append_right _ ?_)) (hfraction c hc)
      rw [if_neg (List.ne_nil_of_mem hc)]
      exact List.mem_cons_of_mem _ hc
  · intro h c hc hc'
    rcases mem_plain hc with rfl | rfl | hc | hc
    · cases hc'
    · cases hc'
    · exact h c (List.mem_append_left _ hc)
    · exact h c (List.mem_append_right _ hc)

lemma withoutMinus_plain (negative : Bool) (hwhole : Digits whole) (hne : whole ≠ []) :
    DecimalFormat.withoutMinus (plain negative whole fraction) = plain false whole fraction := by
  cases negative with
  | true => rfl
  | false =>
    obtain ⟨c, r, rfl⟩ := List.exists_cons_of_ne_nil hne
    refine DecimalFormat.withoutMinus_cons ?_ _
    rintro rfl
    exact absurd (hwhole '-' List.mem_cons_self) (by decide)

/-- The numeral of all digits of a magnitude keeps its minus unless it is shown as zero. -/
lemma withoutZeroSign_plain (negative : Bool) (m : Magnitude) (places : ℕ) :
    withoutZeroSign (plain negative (m.wholeDigits places) (m.fractionDigits places))
      = plain (negative && !m.isShownAsZero places) (m.wholeDigits places)
        (m.fractionDigits places) := by
  have hwhole := m.digits_wholeDigits places
  have hzero : ((plain negative (m.wholeDigits places) (m.fractionDigits places)).all
      fun c => !c.isDigit || c == '0') = m.isShownAsZero places := by
    rw [Bool.eq_iff_iff, all_zero_plain_iff negative hwhole (m.digits_fractionDigits places),
      m.isShownAsZero_iff_digits]
  rw [withoutZeroSign, hzero, withoutMinus_plain negative hwhole (m.wholeDigits_ne_nil places)]
  cases m.isShownAsZero places with
  | true => simp
  | false => simp

end Numeral

namespace DecimalFormat

variable {f : DecimalFormat} {s : List Char} {x : Double}

lemma onInput_text {typed : Option String} {cursor : ℕ}
    (h : f.isFormattable s typed (cursor == s.length) = true) (hparse : f.parse s = some x) :
    (f.onInput s typed cursor).text = f.format x := by
  simp only [onInput, h, if_true, formatText, hparse, Option.map_some]

/-- The value of a finite number is that of its text, but for the minus of a zero. -/
lemma value_format_of_isFinite (hf : f.Lawful) (hplaces : f.places ≤ 330)
    (hx : x.isFinite = true) :
    f.value (f.format x) = some (Numeral.withoutZeroSign (x.fixedText f.places)) := by
  cases x with
  | nan => cases hx
  | signed negative m =>
    rw [value_format hf hplaces negative hx, stored, Double.fixedText_signed negative hx,
      Numeral.withoutZeroSign_plain]

/-- Writing a text anew while it is typed keeps its value.  In any locale and with any number of
places, whatever key was typed and wherever the cursor is, a text that may be written anew and that
is read as a finite number becomes the text of that number.  It has a value before and after, and
an editor writes the same numeral into the cell, except that a numeral without any digit but zero
loses its minus. -/
theorem regrouping_keeps_value (code : String) (places : ℕ) (s : List Char)
    (typed : Option String) (cursor : ℕ) (x : Double)
    (hformattable : (new code places).isFormattable s typed (cursor == s.length) = true)
    (hparse : (new code places).parse s = some x) (hfinite : x.isFinite = true) :
    let f := new code places
    let u := (f.onInput s typed cursor).text
    u = f.format x ∧ ∃ v, Numeral.IsFixed f.places v
      ∧ f.value s = some v ∧ f.value u = some (Numeral.withoutZeroSign v)
      ∧ ∀ e : DecimalEditor, e.format = f → (e.input s typed cursor).1.value
        = .string (String.ofList (Numeral.withoutZeroSign v)) := by
  intro f u
  have hplaces : f.places ≤ 330 := (places_new_le code places).trans (by decide)
  have htext : u = f.format x := onInput_text hformattable hparse
  have hbefore : f.value s = some (x.fixedText f.places) := by
    rw [value, hparse, Option.map_some]
  have hafter : f.value u = some (Numeral.withoutZeroSign (x.fixedText f.places)) := by
    rw [htext, value_format_of_isFinite (lawful_new code places) hplaces hfinite]
  refine ⟨htext, _, (Double.fixedText_of_isFinite hplaces hfinite).1, hbefore, hafter, ?_⟩
  rintro ⟨format, text⟩ rfl
  exact editor_value_of_value hafter

/-- In the German locale with two places: separators that stand anywhere and a digit too many, and a
number that is rounded to zero. -/
theorem regrouping_of_german_text :
    let f := new "de-DE" 2
    let grouped := (f.onInput "1.2345,678".toList (some "8") 10).text
    let zero := (f.onInput "-0,001".toList none 3).text
    (grouped = "12.345,68".toList ∧ f.value "1.2345,678".toList = some "12345.68".toList
      ∧ f.value grouped = some "12345.68".toList)
      ∧ zero = "0".toList ∧ f.value "-0,001".toList = some "-0.00".toList
      ∧ f.value zero = some "0.00".toList := by
  intro f grouped zero
  obtain ⟨hgrouped, v, -, hbefore, hafter, -⟩ := regrouping_keeps_value "de-DE" 2
    "1.2345,678".toList (some "8") 10 (.ofDecimal false 12345678 (-3)) (by decide)
    (by decide +kernel) (by decide +kernel)
  obtain ⟨hzero, w, -, hsigned, hunsigned, -⟩ := regrouping_keeps_value "de-DE" 2
    "-0,001".toList none 3 (.ofDecimal true 1 (-3)) (by decide) (by decide +kernel)
    (by decide +kernel)
  have hmany : f.value "1.2345,678".toList = some "12345.68".toList := by decide +kernel
  have hsmall : f.value "-0,001".toList = some "-0.00".toList := by decide +kernel
  obtain rfl : v = "12345.68".toList := Option.some.inj (hbefore.symm.trans hmany)
  obtain rfl : w = "-0.00".toList := Option.some.inj (hsigned.symm.trans hsmall)
  exact ⟨⟨hgrouped.trans (by decide +kernel), hmany, hafter.trans (by decide)⟩,
    hzero.trans (by decide +kernel), hsmall, hunsigned.trans (by decide)⟩

end DecimalFormat

end GridRules
