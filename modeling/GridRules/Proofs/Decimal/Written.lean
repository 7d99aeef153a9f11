import GridRules.Decimal.Format
import GridRules.Proofs.Text.Parts

/-!
# Written numbers

The text of a finite number in a locale is a sign, the digits before the point in groups, and the
digits after it behind the decimal separator (`DecimalFormat.written`).  The separators of a locale
differ from each other and from everything else in such a text (`DecimalFormat.Lawful`), so leaving
out the one and replacing the other gives back the plain digits (`DecimalFormat.normalize_written`),
and the number that is read has exactly these digits (`DecimalFormat.parse_written`).
-/

namespace GridRules

open Text (Digits)

/-! ## Groups of digits -/

section Groups

variable {separator c : Char} {ds : List Char}

lemma mem_groupDigits (h : c ∈ groupDigits separator ds) : c = separator ∨ c ∈ ds := by
  induction ds with
  | nil => cases h
  | cons d r ih =>
    rw [groupDigits] at h
    split at h
    · rcases List.mem_cons.1 h with rfl | h
      · exact .inr List.mem_cons_self
      · rcases List.mem_cons.1 h with rfl | h
        · exact .inl rfl
        · exact (ih h).imp_right (List.mem_cons_of_mem d)
    · rcases List.mem_cons.1 h with rfl | h
      · exact .inr List.mem_cons_self
      · exact (ih h).imp_right (List.mem_cons_of_mem d)

/-- Without the separators the digits are left. -/
lemma filter_groupDigits (h : separator ∉ ds) :
    (groupDigits separator ds).filter (· ≠ separator) = ds := by
  induction ds with
  | nil => rfl
  | cons d r ih =>
    obtain ⟨hd, hr⟩ := not_or.1 (mt List.mem_cons.2 h)
    have hkeep : ∀ t, (d :: t).filter (· ≠ separator) = d :: t.filter (· ≠ separator) :=
      fun t => List.filter_cons_of_pos (decide_eq_true (Ne.symm hd))
    rw [groupDigits]
    split
    · rw [hkeep, List.filter_cons_of_neg (by simp), ih hr]
    · rw [hkeep, ih hr]

lemma exists_groupDigits_cons (separator c : Char) (ds : List Char) :
    ∃ r, groupDigits separator (c :: ds) = c :: r := by
  rw [groupDigits]
  split
  · exact ⟨_, rfl⟩
  · exact ⟨_, rfl⟩

/-- Only zeros are dropped. -/
lemma exists_dropEndZeros (ds : List Char) :
    ∃ zeros, ds = dropEndZeros ds ++ List.replicate zeros '0' := by
  refine ⟨(ds.reverse.takeWhile (· == '0')).length, ?_⟩
  have hzeros : ds.reverse.takeWhile (· == '0')
      = List.replicate (ds.reverse.takeWhile (· == '0')).length '0' :=
    List.eq_replicate_of_mem fun c hc => by simpa using List.mem_takeWhile_imp hc
  rw [dropEndZeros, ← List.reverse_replicate, ← hzeros, ← List.reverse_append,
    List.takeWhile_append_dropWhile, List.reverse_reverse]

lemma Text.Digits.dropEndZeros (h : Digits ds) : Digits (dropEndZeros ds) := by
  obtain ⟨zeros, hzeros⟩ := exists_dropEndZeros ds
  rw [hzeros] at h
  exact (List.forall_mem_append.1 h).1

end Groups

/-! ## Separators of a locale -/

namespace DecimalFormat

/-- Whether a number without separators may be written with the character. -/
def isNumberChar (c : Char) : Bool := c.isDigit || c == '-' || c == '∞'

/-- The separators differ from each other and from all else in the text of a number. -/
structure Lawful (f : DecimalFormat) : Prop where
  /-- The separators are two characters. -/
  distinct : f.thousands ≠ f.decimal
  /-- The thousands separator is no part of a plain number. -/
  thousands : isNumberChar f.thousands = false
  /-- The decimal separator is no part of a plain number. -/
  decimal : isNumberChar f.decimal = false

/-- The separators that a locale can have. -/
def localeSeparators : List Separators :=
  [⟨',', '.'⟩, ⟨'.', ','⟩, ⟨'\u202f', ','⟩, ⟨'\u2019', '.'⟩]

lemma knownSeparators?_mem {code : String} {s : Separators} (h : knownSeparators? code = some s) :
    s ∈ localeSeparators := by
  unfold knownSeparators? at h
  repeat' split at h
  all_goals first
    | (obtain rfl := Option.some.inj h; decide)
    | cases h

lemma separatorsOf_mem (code : String) : separatorsOf code ∈ localeSeparators := by
  rw [separatorsOf]
  split
  · rename_i hcode
    exact knownSeparators?_mem hcode
  · cases hlanguage : knownSeparators? (languageOf code) with
    | none => exact List.mem_cons_self
    | some s => exact knownSeparators?_mem hlanguage

lemma lawful_new (code : String) (places : Nat) : (new code places).Lawful := by
  have hlawful : ∀ s ∈ localeSeparators, s.thousands ≠ s.decimal
      ∧ isNumberChar s.thousands = false ∧ isNumberChar s.decimal = false := by
    decide
  obtain ⟨hdistinct, hthousands, hdecimal⟩ := hlawful _ (separatorsOf_mem code)
  exact ⟨hdistinct, hthousands, hdecimal⟩

lemma places_new_le (code : String) (places : Nat) : (new code places).places ≤ 20 :=
  Nat.min_le_right places maxDecimalPlaces

/-! ## Normalizing a written number -/

/-- The text of a number with its digits before and after the point. -/
def written (f : DecimalFormat) (negative : Bool) (whole fraction : List Char) : List Char :=
  (if negative then ['-'] else []) ++ (groupDigits f.thousands whole
    ++ if fraction = [] then [] else f.decimal :: fraction)

variable {f : DecimalFormat} {whole fraction s : List Char}

lemma normalize_append (f : DecimalFormat) (s t : List Char) :
    f.normalize (s ++ t) = f.normalize s ++ f.normalize t := by
  rw [normalize, List.filter_append, List.map_append]
  rfl

lemma map_decimal_of_not_mem (h : f.decimal ∉ s) :
    (s.map fun c => if c = f.decimal then '.' else c) = s := by
  have hsame : ∀ c ∈ s, (if c = f.decimal then '.' else c) = c := fun c hc =>
    if_neg fun heq : c = f.decimal => h (heq ▸ hc)
  rw [List.map_congr_left hsame, List.map_id']

/-- A text without separators is left as it is. -/
lemma normalize_of_not_mem (hthousands : f.thousands ∉ s) (hdecimal : f.decimal ∉ s) :
    f.normalize s = s := by
  have hkeep : s.filter (· ≠ f.thousands) = s :=
    List.filter_eq_self.2 fun c hc => by
      simpa using fun h : c = f.thousands => hthousands (h ▸ hc)
  rw [normalize, hkeep, map_decimal_of_not_mem hdecimal]

lemma isDigit_eq_false {c : Char} (h : isNumberChar c = false) : c.isDigit = false := by
  rw [isNumberChar, Bool.or_eq_false_iff, Bool.or_eq_false_iff] at h
  exact h.1.1

lemma Lawful.thousands_not_mem (hf : f.Lawful) (hs : Digits s) : f.thousands ∉ s :=
  hs.not_mem (isDigit_eq_false hf.thousands)

lemma Lawful.decimal_not_mem (hf : f.Lawful) (hs : Digits s) : f.decimal ∉ s :=
  hs.not_mem (isDigit_eq_false hf.decimal)

lemma Lawful.ne_of_isNumberChar (hf : f.Lawful) {c : Char} (hc : isNumberChar c = true) :
    c ≠ f.thousands ∧ c ≠ f.decimal := by
  refine ⟨?_, ?_⟩
  · rintro rfl
    rw [hf.thousands] at hc
    cases hc
  · rintro rfl
    rw [hf.decimal] at hc
    cases hc

lemma normalize_digits (hf : f.Lawful) (hs : Digits s) : f.normalize s = s :=
  normalize_of_not_mem (hf.thousands_not_mem hs) (hf.decimal_not_mem hs)

lemma normalize_groupDigits (hf : f.Lawful) (hs : Digits s) :
    f.normalize (groupDigits f.thousands s) = s := by
  rw [normalize, filter_groupDigits (hf.thousands_not_mem hs),
    map_decimal_of_not_mem (hf.decimal_not_mem hs)]

lemma normalize_minus (hf : f.Lawful) : f.normalize ['-'] = ['-'] := by
  obtain ⟨hthousands, hdecimal⟩ := hf.ne_of_isNumberChar (c := '-') rfl
  exact normalize_of_not_mem (by simpa using hthousands.symm) (by simpa using hdecimal.symm)

lemma normalize_sign (hf : f.Lawful) (negative : Bool) :
    f.normalize (if negative then ['-'] else []) = if negative then ['-'] else [] := by
  cases negative with
  | false => rfl
  | true => exact normalize_minus hf

/-- The decimal separator becomes a point. -/
lemma normalize_point (hf : f.Lawful) (hfraction : Digits fraction) :
    f.normalize (if fraction = [] then [] else f.decimal :: fraction)
      = if fraction = [] then [] else '.' :: fraction := by
  split
  · rfl
  · have hdecimal : f.normalize [f.decimal] = ['.'] := by
      simp [normalize, hf.distinct.symm]
    rw [← List.singleton_append, normalize_append, hdecimal, normalize_digits hf hfraction]
    rfl

/-- The groups and the locale are undone. -/
lemma normalize_written (hf : f.Lawful) (negative : Bool) (hwhole : Digits whole)
    (hfraction : Digits fraction) : f.normalize (f.written negative whole fraction)
      = (if negative then ['-'] else [])
        ++ (whole ++ if fraction = [] then [] else '.' :: fraction) := by
  rw [written, normalize_append, normalize_append, normalize_sign hf, normalize_point hf hfraction,
    normalize_groupDigits hf hwhole]

end DecimalFormat

/-! ## Reading a written number -/

namespace Numeral

variable {c : Char} {whole fraction : List Char}

lemma readSign_of_isDigit (h : c.isDigit = true) (s : List Char) :
    readSign (c :: s) = (false, c :: s) := by
  unfold readSign
  split
  · rename_i heq
    obtain rfl := (List.cons.inj heq).1
    cases h
  · rename_i heq
    obtain rfl := (List.cons.inj heq).1
    cases h
  · rfl

/-- Plain digits with a sign and a point are read to the end. -/
lemma read?_plain (negative : Bool) (hwhole : Text.Digits whole)
    (hne : whole ≠ [] ∨ fraction ≠ []) (hfraction : Text.Digits fraction) :
    read? ((if negative then ['-'] else [])
        ++ (whole ++ if fraction = [] then [] else '.' :: fraction))
      = some (⟨negative, whole, fraction, 0⟩, []) := by
  generalize hpoint : (if fraction = [] then [] else '.' :: fraction) = point
  have hsign : readSign ((if negative then ['-'] else []) ++ (whole ++ point))
      = (negative, whole ++ point) := by
    cases negative with
    | true => rfl
    | false =>
      cases whole with
      | cons c r => exact readSign_of_isDigit (hwhole c List.mem_cons_self) _
      | nil =>
        rw [← hpoint, if_neg (hne.resolve_left fun h => h rfl)]
        rfl
  -- the digits before the point end at it, or with the text
  have hrun : Text.digitRun (whole ++ point) = (whole, point) := by
    refine Text.digitRun_of_digits hwhole ?_
    intro c hc
    rw [← hpoint] at hc
    split at hc
    · cases hc
    · obtain rfl := Option.some.inj hc
      rfl
  have hread : readFraction point = (fraction, []) := by
    rw [← hpoint]
    split
    · rename_i hnil
      rw [hnil]
      rfl
    · have hall := Text.digitRun_of_digits (t := []) hfraction (fun c hc => by cases hc)
      rw [List.append_nil] at hall
      exact hall
  have hsome : ¬ (whole = [] ∧ fraction = []) := fun h => hne.elim (· h.1) (· h.2)
  simp only [read?, hsign, hrun, hread, if_neg hsome]
  rfl

end Numeral

namespace DecimalFormat

variable {f : DecimalFormat} {whole fraction s : List Char}

/-- The number that is read has the digits that were written. -/
lemma parse_written (hf : f.Lawful) (negative : Bool) (hwhole : Digits whole) (hne : whole ≠ [])
    (hfraction : Digits fraction) : f.parse (f.written negative whole fraction)
      = some (Numeral.toDouble ⟨negative, whole, fraction, 0⟩) := by
  have htrim : Text.trimStart ((if negative then ['-'] else [])
        ++ (whole ++ if fraction = [] then [] else '.' :: fraction))
      = (if negative then ['-'] else [])
        ++ (whole ++ if fraction = [] then [] else '.' :: fraction) := by
    cases negative with
    | true => exact Text.trimStart_cons (by decide)
    | false =>
      obtain ⟨c, r, rfl⟩ := List.exists_cons_of_ne_nil hne
      exact Text.trimStart_cons (Text.isWhite_of_isDigit (hwhole c List.mem_cons_self))
  rw [parse, normalize_written hf negative hwhole hfraction, htrim,
    Numeral.read?_plain negative hwhole (.inl hne) hfraction]
  rfl

/-! ## Writing a written number anew -/

/-- The digits in groups hold no decimal separator. -/
lemma decimal_not_mem_groupDigits (hf : f.Lawful) (hwhole : Digits whole) :
    f.decimal ∉ groupDigits f.thousands whole := by
  intro h
  rcases mem_groupDigits h with h | h
  · exact hf.distinct h.symm
  · exact hf.decimal_not_mem hwhole h

lemma fraction?_of_not_mem (h : f.decimal ∉ s) : f.fraction? s = none := by
  rw [fraction?, Text.dropWhile_of_not_mem h]

lemma fraction?_append (h : f.decimal ∉ s) (t : List Char) :
    f.fraction? (s ++ f.decimal :: t) = some t := by
  rw [fraction?, Text.dropWhile_append_cons h]

/-- Whether a text without a sign is digits and separators, and digits after a decimal separator. -/
def isUnsigned (f : DecimalFormat) (s : List Char) : Bool :=
  (s.takeWhile (· ≠ f.decimal)).all (fun c => c.isDigit || c == f.thousands)
    && (match f.fraction? s with
      | none => true
      | some fraction => !fraction.isEmpty && fraction.all Char.isDigit)

/-- The text without the minus at its front. -/
def withoutMinus : List Char → List Char
  | '-' :: r => r
  | s => s

lemma withoutMinus_cons {c : Char} (hc : c ≠ '-') (s : List Char) :
    withoutMinus (c :: s) = c :: s := by
  unfold withoutMinus
  split
  · rename_i heq
    exact absurd (List.cons.inj heq).1 hc
  · rfl

lemma isFormattable_eq (f : DecimalFormat) (s : List Char) (typed : Option String)
    (cursorAtEnd : Bool) : f.isFormattable s typed cursorAtEnd
      = if s = [] ∨ (typed = some "0" ∧ cursorAtEnd ∧ 0 < f.countDecimals s) then false
        else f.isUnsigned (withoutMinus s) := by
  unfold isFormattable
  by_cases hs : s = []
  · rw [if_pos hs, if_pos (.inl hs)]
  · by_cases hzero : typed = some "0" ∧ cursorAtEnd ∧ 0 < f.countDecimals s
    · rw [if_neg hs, if_pos hzero, if_pos (.inr hzero)]
    · rw [if_neg hs, if_neg hzero, if_neg (not_or.2 ⟨hs, hzero⟩)]
      rfl

lemma isFormattable_minus (f : DecimalFormat) (s : List Char) (cursorAtEnd : Bool) :
    f.isFormattable ('-' :: s) none cursorAtEnd = f.isUnsigned s := by
  rw [isFormattable_eq, if_neg (by simp)]
  rfl

lemma isFormattable_cons {c : Char} (hc : c ≠ '-') (s : List Char) (cursorAtEnd : Bool) :
    f.isFormattable (c :: s) none cursorAtEnd = f.isUnsigned (c :: s) := by
  rw [isFormattable_eq, if_neg (by simp), withoutMinus_cons hc]

lemma isUnsigned_written (hf : f.Lawful) (hwhole : Digits whole) (hfraction : Digits fraction) :
    f.isUnsigned (groupDigits f.thousands whole
      ++ if fraction = [] then [] else f.decimal :: fraction) = true := by
  have hno := decimal_not_mem_groupDigits hf hwhole
  have hgroups : (groupDigits f.thousands whole).all (fun c => c.isDigit || c == f.thousands)
      = true := by
    rw [List.all_eq_true]
    intro c hc
    rcases mem_groupDigits hc with rfl | hc
    · simp
    · simp [hwhole c hc]
  rw [isUnsigned]
  split
  · rw [List.append_nil, Text.takeWhile_of_not_mem hno, fraction?_of_not_mem hno, hgroups]
    rfl
  · rename_i hne
    have hdigits : fraction.all Char.isDigit = true := List.all_eq_true.2 hfraction
    have hsome : fraction.isEmpty = false := by simpa using hne
    rw [Text.takeWhile_append_cons, Text.takeWhile_of_not_mem hno, fraction?_append hno, hgroups]
    dsimp only
    rw [hdigits, hsome]
    rfl

/-- A written number may be written anew. -/
lemma isFormattable_written (hf : f.Lawful) (negative : Bool) (hwhole : Digits whole)
    (hne : whole ≠ []) (hfraction : Digits fraction) :
    f.isFormattable (f.written negative whole fraction) none true = true := by
  have hunsigned := isUnsigned_written hf hwhole hfraction
  rw [written]
  cases negative with
  | true => exact (isFormattable_minus f _ true).trans hunsigned
  | false =>
    -- the text starts with a digit, which is no sign
    obtain ⟨c, ds, rfl⟩ := List.exists_cons_of_ne_nil hne
    obtain ⟨r, hr⟩ := exists_groupDigits_cons f.thousands c ds
    have hc : c ≠ '-' := by
      rintro rfl
      cases hwhole '-' List.mem_cons_self
    rw [hr, List.cons_append] at hunsigned ⊢
    exact (isFormattable_cons hc _ true).trans hunsigned

/-- The text of an infinite number is left alone. -/
lemma isFormattable_infinity (hf : f.Lawful) (negative : Bool) :
    f.isFormattable ((if negative then ['-'] else []) ++ ['∞']) none true = false := by
  obtain ⟨hthousands, hdecimal⟩ := hf.ne_of_isNumberChar (c := '∞') rfl
  have hunsigned : f.isUnsigned ['∞'] = false := by
    have hdigit : '∞'.isDigit = false := rfl
    simp [isUnsigned, hdecimal, hthousands, hdigit]
  cases negative with
  | true => exact (isFormattable_minus f _ true).trans hunsigned
  | false => exact (isFormattable_cons (by decide) _ true).trans hunsigned

end DecimalFormat

end GridRules
