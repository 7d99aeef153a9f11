import GridRules.Proofs.Decimal.Reformat
import GridRules.Proofs.Value.NumberLiteral

/-!
# Plain numerals

The numeral that a cell stores is plain: a sign, digits, and a point with digits after it, without
the separators of a locale (`Numeral.plain`).  A double with a fixed number of places is written so
(`Double.fixedText_signed`), and two readers take it: the one for texts of a locale, once the
separators are undone, and the one that reads the value of a cell (`numberOfText_plain`).  Both find
the double nearest to the digits.
-/

namespace GridRules

open Text (Digits)

namespace Numeral

variable {whole fraction : List Char}

/-- The plain text of a number with its digits before and after the point. -/
def plain (negative : Bool) (whole fraction : List Char) : List Char :=
  (if negative then ['-'] else []) ++ (whole ++ if fraction = [] then [] else '.' :: fraction)

lemma plain_ne_nil (negative : Bool) (hne : whole ≠ []) (fraction : List Char) :
    plain negative whole fraction ≠ [] := by
  simp [plain, hne]

lemma mem_plain {negative : Bool} {c : Char} (h : c ∈ plain negative whole fraction) :
    c = '-' ∨ c = '.' ∨ c ∈ whole ∨ c ∈ fraction := by
  rcases List.mem_append.1 h with h | h
  · cases negative with
    | false => cases h
    | true => exact .inl (List.mem_singleton.1 h)
  · rcases List.mem_append.1 h with h | h
    · exact .inr (.inr (.inl h))
    · split at h
      · cases h
      · rcases List.mem_cons.1 h with h | h
        · exact .inr (.inl h)
        · exact .inr (.inr (.inr h))

lemma isWhite_of_mem_plain {negative : Bool} {c : Char} (hwhole : Digits whole)
    (hfraction : Digits fraction) (h : c ∈ plain negative whole fraction) :
    Text.isWhite c = false := by
  rcases mem_plain h with rfl | rfl | h | h
  · rfl
  · rfl
  · exact Text.isWhite_of_isDigit (hwhole c h)
  · exact Text.isWhite_of_isDigit (hfraction c h)

lemma isBlank_plain (negative : Bool) (hwhole : Digits whole) (hne : whole ≠ [])
    (hfraction : Digits fraction) : Text.isBlank (plain negative whole fraction) = false := by
  obtain ⟨c, r, htext⟩ := List.exists_cons_of_ne_nil (plain_ne_nil negative hne fraction)
  have hc : Text.isWhite c = false :=
    isWhite_of_mem_plain hwhole hfraction (htext ▸ List.mem_cons_self)
  rw [htext, Text.isBlank, List.all_cons, hc, Bool.false_and]

lemma ofText?_plain (negative : Bool) (hwhole : Digits whole) (hne : whole ≠ [])
    (hfraction : Digits fraction) :
    ofText? (plain negative whole fraction) = some ⟨negative, whole, fraction, 0⟩ := by
  rw [ofText?, plain, read?_plain negative hwhole (.inl hne) hfraction]

/-- The double of a numeral has its sign. -/
lemma exists_toDouble_eq (n : Numeral) : ∃ m, n.toDouble = .signed n.negative m := by
  rw [toDouble, Double.ofDecimal]
  repeat' split
  all_goals exact ⟨_, rfl⟩

/-- The digits are the coefficient, and those after the point tell the power of ten. -/
lemma toDouble_plain (negative : Bool) (whole : List Char) (hfraction : fraction.length ≤ 330) :
    toDouble ⟨negative, whole, fraction, 0⟩
      = .ofRatio negative (Text.ofDigits (whole ++ fraction)) (10 ^ fraction.length) := by
  rw [← Double.ofDecimal_neg negative _ hfraction, ← Int.zero_sub]
  rfl

end Numeral

/-- The value of a cell that holds a plain numeral is the number of the numeral. -/
lemma numberOfText_plain (negative : Bool) {whole fraction : List Char} (hwhole : Digits whole)
    (hne : whole ≠ []) (hfraction : Digits fraction) :
    numberOfText (Numeral.plain negative whole fraction)
      = Numeral.toDouble ⟨negative, whole, fraction, 0⟩ := by
  have htrim : Text.trim (Numeral.plain negative whole fraction)
      = Numeral.plain negative whole fraction :=
    Text.trim_of_forall fun _ => Numeral.isWhite_of_mem_plain hwhole hfraction
  rw [numberOfText, htrim]
  rw [if_neg (Numeral.plain_ne_nil negative hne fraction)]
  exact numberOfLiteral_of_denotes (.decimal (Numeral.ofText?_plain negative hwhole hne hfraction))

/-- A finite double is written as a plain numeral with all its places. -/
lemma Double.fixedText_signed (negative : Bool) {m : Magnitude} (hm : m.isFinite = true)
    (places : Nat) : fixedText (.signed negative m) places
      = Numeral.plain negative (m.wholeDigits places) (m.fractionDigits places) := by
  have hfinite : ¬ (!m.isFinite) = true := by simp [hm]
  have htext : (if places = 0 then m.wholeDigits places
      else m.wholeDigits places ++ '.' :: m.fractionDigits places)
      = m.wholeDigits places
        ++ if m.fractionDigits places = [] then [] else '.' :: m.fractionDigits places := by
    have hlength := m.length_fractionDigits places
    split
    · rename_i hzero
      rw [if_pos (List.length_eq_zero_iff.1 (hlength.trans hzero)), List.append_nil]
    · rename_i hne
      rw [if_neg fun hnil => hne (by rw [← hlength, hnil, List.length_nil])]
  rw [fixedText, if_neg hfinite, htext, Numeral.plain]
  cases negative <;> rfl

namespace DecimalFormat

variable {f : DecimalFormat} {whole fraction : List Char}

/-- Without the separators of its locale a written number is a plain numeral. -/
lemma normalize_written_eq_plain (hf : f.Lawful) (negative : Bool) (hwhole : Digits whole)
    (hfraction : Digits fraction) :
    f.normalize (f.written negative whole fraction) = Numeral.plain negative whole fraction :=
  normalize_written hf negative hwhole hfraction

end DecimalFormat

end GridRules
