import GridRules.Proofs.Decimal.Commit
import GridRules.Proofs.Decimal.LeadingNumeral

/-!
# The numeral that a cell gets

The value of any text is the number at its front, written with all places.  A finite double is
written as a plain numeral (`Numeral.IsFixed`), which another reader turns into a finite double and
which that double is written as again.  So a cell gets a plain numeral wherever the number at the
front of the text is one that doubles can hold, and null exactly where the text starts with no
number.

Beyond the doubles no digits are written.  The reader goes to infinity, and the value is the word
for it, which is no numeral and stands for no number in the cell.
-/

namespace GridRules

open Text (Digits)

namespace Numeral

/-- A plain numeral with a number of places: an optional minus, at least one digit and, where there
are places, a point with exactly that many digits. -/
def IsFixed (places : ℕ) (s : List Char) : Prop :=
  ∃ negative whole fraction, s = plain negative whole fraction ∧ Digits whole ∧ whole ≠ []
    ∧ Digits fraction ∧ fraction.length = places

/-- Nothing but digits, a minus and a point stands in a plain numeral. -/
lemma IsFixed.not_mem {places : ℕ} {s : List Char} {c : Char} (h : IsFixed places s)
    (hdigit : c.isDigit = false) (hminus : c ≠ '-') (hpoint : c ≠ '.') : c ∉ s := by
  obtain ⟨negative, whole, fraction, rfl, hwhole, -, hfraction, -⟩ := h
  intro hmem
  rcases mem_plain hmem with rfl | rfl | hmem | hmem
  · exact hminus rfl
  · exact hpoint rfl
  · exact hwhole.not_mem hdigit hmem
  · exact hfraction.not_mem hdigit hmem

end Numeral

namespace Double

/-- The word for an infinite number. -/
def infinityText (negative : Bool) : List Char :=
  if negative then "-inf".toList else "inf".toList

variable {x : Double} {negative : Bool} {m : Magnitude}

lemma fixedText_infinite (hm : m.isFinite = false) (places : ℕ) :
    fixedText (.signed negative m) places = infinityText negative := by
  simp only [fixedText, hm, Bool.not_false, if_true]
  cases negative <;> rfl

lemma numberOfText_infinityText (negative : Bool) :
    numberOfText (infinityText negative) = .nan := by
  cases negative <;> decide +kernel

/-- A finite double is written with all its places as a plain numeral.  The number of that numeral
is finite, and it is written the same way. -/
lemma fixedText_of_isFinite {places : ℕ} (hplaces : places ≤ 330) (hx : x.isFinite = true) :
    Numeral.IsFixed places (x.fixedText places)
      ∧ (numberOfText (x.fixedText places)).isFinite = true
      ∧ (numberOfText (x.fixedText places)).fixedText places = x.fixedText places := by
  cases x with
  | nan => cases hx
  | signed negative m =>
    obtain ⟨y, hnumber, hfinite, hscaled⟩ := m.exists_numberOfText_fixed hplaces negative hx
    rw [fixedText_signed negative hx]
    refine ⟨⟨negative, _, _, rfl, m.digits_wholeDigits _, m.wholeDigits_ne_nil _,
      m.digits_fractionDigits _, m.length_fractionDigits _⟩, ?_, ?_⟩
    · rw [hnumber]
      exact hfinite
    · rw [hnumber, fixedText_signed negative hfinite, (Magnitude.shown_congr hscaled).1,
        Magnitude.fractionDigits_congr hscaled]

end Double

namespace Numeral

variable {n : Numeral} {places : ℕ}

/-- What is written for a numeral that doubles can hold is a plain numeral of a finite number. -/
lemma fixedText_toDouble_of_lt (hplaces : places ≤ 330) (h : |n.number| < leastInfinite) :
    IsFixed places (n.toDouble.fixedText places)
      ∧ (numberOfText (n.toDouble.fixedText places)).isFinite = true
      ∧ (numberOfText (n.toDouble.fixedText places)).fixedText places
        = n.toDouble.fixedText places :=
  Double.fixedText_of_isFinite hplaces (n.isFinite_toDouble_iff.2 h)

/-- Beyond the doubles the word for infinity is written. -/
lemma fixedText_toDouble_of_le (places : ℕ) (h : leastInfinite ≤ |n.number|) :
    n.toDouble.fixedText places = Double.infinityText n.negative := by
  obtain ⟨m, hm⟩ := n.exists_toDouble_eq
  have hinfinite : m.isFinite = false := by
    have hnot : ¬ n.toDouble.isFinite = true := by
      rw [isFinite_toDouble_iff]
      exact not_lt.2 h
    rw [hm] at hnot
    exact Bool.eq_false_iff.2 hnot
  rw [hm, Double.fixedText_infinite hinfinite]

end Numeral

namespace DecimalFormat

variable {f : DecimalFormat} {s rest : List Char} {n : Numeral}

lemma value_eq_none_iff : f.value s = none ↔ ¬ Numeral.Leads (f.normalize s) := by
  rw [value, parse, Option.map_map, Option.map_eq_none_iff, Numeral.read?_trimStart_eq_none_iff]

lemma value_of_read? (h : Numeral.read? (Text.trimStart (f.normalize s)) = some (n, rest)) :
    f.value s = some (n.toDouble.fixedText f.places) := by
  rw [value, parse, h]
  rfl

lemma editor_value_eq_null_iff :
    (⟨f, s⟩ : DecimalEditor).value = .null ↔ f.value s = none := by
  unfold DecimalEditor.value
  dsimp only
  split
  · rename_i numeral hsome
    simp [hsome]
  · rename_i hnone
    simp [hnone]

lemma editor_value_of_value {v : List Char} (h : f.value s = some v) :
    (⟨f, s⟩ : DecimalEditor).value = .string (String.ofList v) := by
  unfold DecimalEditor.value
  dsimp only
  rw [h]

/-- The value of any text, in any locale and with any number of places.  There is none, and an
editor with the text writes null, exactly when no numeral stands at the front of the text without
its separators.  If the numeral at the front is one that doubles can hold, the value is a plain
numeral with all places.  Its number is finite, and is written as the same numeral.  Any greater
numeral is stored as the word for infinity, which denotes no number. -/
theorem value_is_plain_numeral_within_doubles (code : String) (places : ℕ) (s : List Char) :
    let f : DecimalFormat := new code places
    (f.value s = none ↔ ¬ Numeral.Leads (f.normalize s))
      ∧ ((⟨f, s⟩ : DecimalEditor).value = .null ↔ ¬ Numeral.Leads (f.normalize s))
      ∧ ∀ n rest, Numeral.read? (Text.trimStart (f.normalize s)) = some (n, rest) →
        ∃ v, f.value s = some v ∧ (⟨f, s⟩ : DecimalEditor).value = .string (String.ofList v)
          ∧ (|n.number| < leastInfinite → Numeral.IsFixed f.places v
            ∧ (numberOfText v).isFinite = true ∧ (numberOfText v).fixedText f.places = v)
          ∧ (leastInfinite ≤ |n.number| →
            v = Double.infinityText n.negative ∧ numberOfText v = .nan) := by
  intro f
  have hplaces : f.places ≤ 330 := (places_new_le code places).trans (by decide)
  refine ⟨value_eq_none_iff, editor_value_eq_null_iff.trans value_eq_none_iff, ?_⟩
  intro n rest hread
  have hvalue := value_of_read? hread
  refine ⟨_, hvalue, editor_value_of_value hvalue, Numeral.fixedText_toDouble_of_lt hplaces, ?_⟩
  intro hlarge
  have hword := Numeral.fixedText_toDouble_of_le f.places hlarge
  exact ⟨hword, by rw [hword, Double.numberOfText_infinityText]⟩

/-- In the German locale with two places: white space, groups, a power of ten and a unit after the
number, of which a plain numeral is left. -/
theorem german_value_of_power_and_unit :
    let f := new "de-DE" 2
    let s := "  -1.234,567e-1 kg".toList
    f.value s = some "-123.46".toList ∧ (⟨f, s⟩ : DecimalEditor).value = .string "-123.46"
      ∧ Numeral.IsFixed 2 "-123.46".toList ∧ (numberOfText "-123.46".toList).isFinite = true := by
  intro f s
  obtain ⟨-, -, hvalue⟩ := value_is_plain_numeral_within_doubles "de-DE" 2 s
  have hread : Numeral.read? (Text.trimStart (f.normalize s))
      = some (⟨true, "1234".toList, "567".toList, -1⟩, " kg".toList) := by decide
  obtain ⟨v, hv, heditor, hfixed, -⟩ := hvalue _ _ hread
  have htext : f.value s = some "-123.46".toList := by decide +kernel
  obtain rfl : v = "-123.46".toList := Option.some.inj (hv.symm.trans htext)
  have hsmall : |Numeral.number ⟨true, "1234".toList, "567".toList, -1⟩| < leastInfinite := by
    rw [← Numeral.isFinite_toDouble_iff]
    decide +kernel
  obtain ⟨hplain, hfinite, -⟩ := hfixed hsmall
  exact ⟨htext, heditor, hplain, hfinite⟩

/-- A power of ten beyond the doubles is a number at the front of the text, and the cell gets a word
for it. -/
theorem large_power_is_stored_as_word :
    let f := new "en-US" 2
    let s := "1e999".toList
    Numeral.Leads (f.normalize s) ∧ f.value s = some "inf".toList
      ∧ (⟨f, s⟩ : DecimalEditor).value = .string "inf"
      ∧ ¬ Numeral.IsFixed 2 "inf".toList ∧ numberOfText "inf".toList = .nan := by
  intro f s
  have hvalue : f.value s = some "inf".toList := by decide +kernel
  refine ⟨?_, hvalue, editor_value_of_value hvalue, ?_, Double.numberOfText_infinityText false⟩
  · by_contra hno
    rw [value_eq_none_iff.2 hno] at hvalue
    cases hvalue
  · intro hfixed
    have hword : 'i' ∈ "inf".toList := by decide
    exact hfixed.not_mem (by decide) (by decide) (by decide) hword

end DecimalFormat

end GridRules
