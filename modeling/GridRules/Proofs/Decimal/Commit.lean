import GridRules.Decimal.Editor
import GridRules.Proofs.Decimal.PlainText
import Mathlib.Logic.Function.Iterate

/-!
# Opening and committing a decimal cell

An editor that is opened on a number shows its text in the locale, and without any typing it commits
the plain numeral of that text with all places (`DecimalFormat.value_format`).  The next editor is
opened on the numeral, which another reader turns into a double.  That double need not be the number
of the cell, but it is rounded to the digits that are shown (`DecimalFormat.exists_stored`), so the
next editor shows the same text and commits the same numeral.

The sign is the one part that the first commit may change: a number that is shown as zero is shown,
and then stored, without its minus.
-/

namespace GridRules

open Text (Digits)

namespace Magnitude

lemma fractionDigits_congr {m y : Magnitude} {places : Nat}
    (h : y.scaled places = m.scaled places) :
    y.fractionDigits places = m.fractionDigits places := by
  rw [fractionDigits, fractionDigits, h]

/-- The numeral of all digits of a finite magnitude is the number of a finite one, which is rounded
to the same digits. -/
lemma exists_numberOfText_fixed (m : Magnitude) {places : Nat} (hplaces : places ≤ 330)
    (negative : Bool) (hm : m.isFinite = true) :
    ∃ y : Magnitude,
      numberOfText (Numeral.plain negative (m.wholeDigits places) (m.fractionDigits places))
        = .signed negative y
      ∧ y.isFinite = true ∧ y.scaled places = m.scaled places := by
  have hdecimal : Text.ofDigits (m.wholeDigits places ++ m.fractionDigits places) * 10 ^ 0
      = m.scaled (places + 0) := by
    rw [Nat.pow_zero, Nat.mul_one, m.ofDigits_fixed, Nat.add_zero]
  obtain ⟨y, hy, hfinite, hscaled⟩ := Double.exists_read_back hm hdecimal negative
  refine ⟨y, ?_, hfinite, hscaled⟩
  have hlength := m.length_fractionDigits places
  rw [numberOfText_plain negative (m.digits_wholeDigits _) (m.wholeDigits_ne_nil _)
    (m.digits_fractionDigits _), Numeral.toDouble_plain negative _ (hlength.trans_le hplaces),
    hlength, hy]

end Magnitude

namespace DecimalFormat

variable {f : DecimalFormat} {m y : Magnitude}

/-! ## What is stored -/

/-- The numeral that is stored for a finite number: all digits of the rounded number, with the sign
that is shown. -/
def stored (f : DecimalFormat) (negative : Bool) (m : Magnitude) : List Char :=
  Numeral.plain (negative && !m.isShownAsZero f.places) (m.wholeDigits f.places)
    (m.fractionDigits f.places)

/-- The text of a finite number is committed as the numeral that is stored for the number. -/
lemma value_format (hf : f.Lawful) (hplaces : f.places ≤ 330) (negative : Bool)
    (hm : m.isFinite = true) :
    f.value (f.format (.signed negative m)) = some (f.stored negative m) := by
  obtain ⟨y, hparse, hfinite, hscaled⟩ := exists_parse_format hf hplaces negative hm
  rw [value, hparse, Option.map_some, Double.fixedText_signed _ hfinite, stored,
    (Magnitude.shown_congr hscaled).1, Magnitude.fractionDigits_congr hscaled]

lemma isBlank_stored (f : DecimalFormat) (negative : Bool) (m : Magnitude) :
    Text.isBlank (f.stored negative m) = false :=
  Numeral.isBlank_plain _ (m.digits_wholeDigits _) (m.wholeDigits_ne_nil _)
    (m.digits_fractionDigits _)

/-- The number of a cell that holds a stored numeral is finite and is rounded to the same digits;
its sign is the one that was shown. -/
lemma exists_stored (hplaces : f.places ≤ 330) (negative : Bool) (hm : m.isFinite = true) :
    ∃ y : Magnitude, numberOfText (f.stored negative m)
        = .signed (negative && !m.isShownAsZero f.places) y
      ∧ y.isFinite = true ∧ y.scaled f.places = m.scaled f.places :=
  m.exists_numberOfText_fixed hplaces _ hm

/-- A number that is rounded to the digits that are shown, with the sign that is shown, is shown the
same way. -/
lemma format_of_scaled (negative : Bool) (hm : m.isFinite = true) (hy : y.isFinite = true)
    (h : y.scaled f.places = m.scaled f.places) :
    f.format (.signed (negative && !m.isShownAsZero f.places) y)
      = f.format (.signed negative m) := by
  obtain ⟨hwhole, hfraction, hzero⟩ := Magnitude.shown_congr h
  rw [format_signed f _ hy, format_signed f negative hm, hwhole, hfraction, hzero, Bool.and_assoc,
    Bool.and_self]

/-- What is stored for a number is shown as the number was. -/
lemma format_stored (hplaces : f.places ≤ 330) (negative : Bool) (hm : m.isFinite = true) :
    f.format (numberOfText (f.stored negative m)) = f.format (.signed negative m) := by
  obtain ⟨y, hnumber, hfinite, hscaled⟩ := exists_stored hplaces negative hm
  rw [hnumber, format_of_scaled negative hm hfinite hscaled]

end DecimalFormat

namespace DecimalEditor

open DecimalFormat (ofSettings)

/-! ## The editor -/

/-- The value of a cell after an editor was opened on it and committed without any typing. -/
def commitUntouched (settings : DecimalSettings) (v : Value) : Value := (start settings v).value

variable {settings : DecimalSettings} {v : Value}

/-- A cell that holds no blank starts with the text of its number. -/
lemma start_of_not_blank (hnull : v ≠ .null)
    (hblank : ∀ s, v = .string s → Text.isBlank s.toList = false) :
    start settings v = ⟨ofSettings settings, (ofSettings settings).format v.toDouble⟩ := by
  have hcell : ∀ text : List Char, (if false = true then [] else text) = text :=
    fun _ => if_neg Bool.false_ne_true
  cases v with
  | null => exact absurd rfl hnull
  | string s => simp only [start, hblank s rfl, hcell]
  | bool b => simp only [start, hcell]
  | number n => simp only [start, hcell]
  | array items => simp only [start, hcell]
  | object fields => simp only [start, hcell]

/-- What an editor commits whose text is that of a finite number. -/
lemma value_of_text {negative : Bool} {m : Magnitude} (hm : m.isFinite = true) :
    value ⟨ofSettings settings, (ofSettings settings).format (.signed negative m)⟩
      = .string (String.ofList ((ofSettings settings).stored negative m)) := by
  have hf := DecimalFormat.lawful_new settings.countryCode settings.places.toNat
  have hplaces := DecimalFormat.places_new_le settings.countryCode settings.places.toNat
  have hvalue := DecimalFormat.value_format hf (hplaces.trans (by decide)) negative hm
  rw [value]
  dsimp only
  rw [ofSettings, hvalue]

/-- An editor that is opened on a stored numeral has the text of the number that was stored. -/
lemma start_stored {negative : Bool} {m : Magnitude} (hm : m.isFinite = true) :
    start settings (.string (String.ofList ((ofSettings settings).stored negative m)))
      = ⟨ofSettings settings, (ofSettings settings).format (.signed negative m)⟩ := by
  have hplaces := DecimalFormat.places_new_le settings.countryCode settings.places.toNat
  have hformat := DecimalFormat.format_stored (hplaces.trans (by decide)) negative hm
  have hnumber : ∀ s, (Value.string s).toDouble = numberOfText s.toList := fun _ => rfl
  rw [start_of_not_blank (by simp)]
  · rw [hnumber, String.toList_ofList, ofSettings, hformat]
  · rintro s hs
    obtain rfl := Value.string.inj hs
    rw [String.toList_ofList]
    exact DecimalFormat.isBlank_stored _ negative m

/-- Opening and committing a cell is stable.  In any locale and with any number of places, an editor
that is opened on a finite number commits a text; an editor that is opened on that text is the same
editor, with the same text on the screen, and commits the same text.  So however often a cell is
opened and committed without any typing, the text of the first commit stays. -/
theorem commit_is_stable (settings : DecimalSettings) (v : Value) (hnull : v ≠ .null)
    (hblank : ∀ s, v = .string s → Text.isBlank s.toList = false)
    (hfinite : v.toDouble.isFinite = true) :
    (∃ s, (start settings v).value = .string s)
      ∧ start settings (start settings v).value = start settings v
      ∧ (start settings (start settings v).value).text = (start settings v).text
      ∧ (start settings (start settings v).value).value = (start settings v).value
      ∧ ∀ cycles, (commitUntouched settings)^[cycles + 1] v = (start settings v).value := by
  have hstart : start settings v = _ := start_of_not_blank hnull hblank
  -- what is stored is a numeral, and an editor that is opened on it is the first one again
  obtain ⟨s, hvalue, hagain⟩ : ∃ s, (start settings v).value = .string s
      ∧ start settings (.string s) = start settings v := by
    rw [hstart]
    cases hx : v.toDouble with
    | nan =>
      rw [hx] at hfinite
      cases hfinite
    | signed negative m =>
      rw [hx] at hfinite
      exact ⟨_, value_of_text hfinite, start_stored hfinite⟩
  have hfixed : commitUntouched settings (start settings v).value = (start settings v).value := by
    rw [commitUntouched, hvalue, hagain, hvalue]
  refine ⟨⟨s, hvalue⟩, by rw [hvalue, hagain], by rw [hvalue, hagain], hfixed, fun cycles => ?_⟩
  rw [Function.iterate_succ_apply]
  exact Function.iterate_fixed hfixed cycles

/-- In the German locale with two places: a number half a step away from two decimals, a number that
is shown as zero and loses its sign, and a text in exponent form. -/
theorem commit_of_half_step_and_small_negative :
    let settings : DecimalSettings := ⟨"de-DE", 2⟩
    let half := Value.string " -1234.125 "
    let small := Value.string "-1e-3"
    (half.toDouble.isFinite = true ∧ (start settings half).text = "-1.234,12".toList
      ∧ (start settings half).value = .string "-1234.12"
      ∧ (commitUntouched settings)^[3] half = .string "-1234.12")
      ∧ (start settings small).text = "0".toList
      ∧ (commitUntouched settings)^[2] small = .string "0.00" := by
  intro settings half small
  have hhalf : half.toDouble.isFinite = true := by decide +kernel
  have hsmall : small.toDouble.isFinite = true := by decide +kernel
  obtain ⟨-, -, -, -, hhalves⟩ := commit_is_stable settings half (by simp [half])
    (by rintro s hs; obtain rfl := Value.string.inj hs; decide) hhalf
  obtain ⟨-, -, -, -, hsmalls⟩ := commit_is_stable settings small (by simp [small])
    (by rintro s hs; obtain rfl := Value.string.inj hs; decide) hsmall
  have hvalue : (start settings half).value = .string "-1234.12" := by decide +kernel
  have hzero : (start settings small).value = .string "0.00" := by decide +kernel
  exact ⟨⟨hhalf, by decide +kernel, hvalue, (hhalves 2).trans hvalue⟩, by decide +kernel,
    (hsmalls 1).trans hzero⟩

end DecimalEditor

end GridRules
