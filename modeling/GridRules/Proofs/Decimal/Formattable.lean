import GridRules.Proofs.Decimal.PlainText

/-!
# Formattable text

A text that may be written anew is an optional minus, digits among which separators of groups stand
anywhere, and digits behind a decimal separator, if there is one (`DecimalFormat.HasParts`).  That
is said of the characters of the locale.  The reader of numbers has a grammar of its own, on the
text without the separators.  The two fit: without its separators such a text is plain digits with a
sign and a point (`HasParts.normalize_eq`), which the reader takes to the end.  So nothing of it is
left out when it is written anew, and it holds no number only when it holds no digit.
-/

namespace GridRules

open Text (Digits)

namespace Numeral

variable {whole fraction : List Char}

/-- A sign with no digit after it is no numeral. -/
lemma read?_sign (negative : Bool) : read? (plain negative [] []) = none := by
  cases negative <;> rfl

lemma trimStart_plain (negative : Bool) (hwhole : Digits whole) (hfraction : Digits fraction) :
    Text.trimStart (plain negative whole fraction) = plain negative whole fraction :=
  Text.trimStart_of_forall fun _ => isWhite_of_mem_plain hwhole hfraction

end Numeral

namespace DecimalFormat

/-- A text in three parts: whether a minus stands in front, digits and separators of groups, and the
digits of a fraction, which has a decimal separator before it unless it is missing. -/
structure HasParts (f : DecimalFormat) (negative : Bool) (groups fraction s : List Char) :
    Prop where
  /-- The parts make up the text. -/
  text_eq : s = (if negative then ['-'] else [])
    ++ (groups ++ if fraction = [] then [] else f.decimal :: fraction)
  /-- Nothing stands before the decimal separator but digits and separators of groups. -/
  groups : ∀ c ∈ groups, c.isDigit = true ∨ c = f.thousands
  /-- The fraction is made of digits. -/
  digits_fraction : Digits fraction

variable {f : DecimalFormat} {negative : Bool} {groups fraction s : List Char}

/-! ## The parts of a formattable text -/

lemma eq_takeWhile_append_of_fraction? {t : List Char} (h : f.fraction? s = some t) :
    s = s.takeWhile (· ≠ f.decimal) ++ f.decimal :: t := by
  have hmem : f.decimal ∈ s := by
    by_contra hno
    rw [fraction?_of_not_mem hno] at h
    cases h
  obtain ⟨r, hr⟩ := Text.exists_cut hmem
  rw [hr, fraction?_append (Text.not_mem_takeWhile s f.decimal), Option.some.injEq] at h
  rwa [h] at hr

lemma eq_takeWhile_of_fraction?_none (h : f.fraction? s = none) :
    s.takeWhile (· ≠ f.decimal) = s := by
  refine Text.takeWhile_of_not_mem fun hmem => ?_
  obtain ⟨r, hr⟩ := Text.exists_cut hmem
  rw [hr, fraction?_append (Text.not_mem_takeWhile s f.decimal)] at h
  cases h

lemma hasParts_of_isUnsigned (h : f.isUnsigned s = true) :
    f.HasParts false (s.takeWhile (· ≠ f.decimal)) ((f.fraction? s).getD []) s := by
  rw [isUnsigned, Bool.and_eq_true, List.all_eq_true] at h
  obtain ⟨hwhole, hfraction⟩ := h
  have hgroups : ∀ c ∈ s.takeWhile (· ≠ f.decimal), c.isDigit = true ∨ c = f.thousands :=
    fun c hc => by simpa using hwhole c hc
  cases hsome : f.fraction? s with
  | none =>
    refine ⟨?_, hgroups, fun c hc => absurd hc List.not_mem_nil⟩
    rw [Option.getD_none, if_pos rfl, List.append_nil, eq_takeWhile_of_fraction?_none hsome]
    rfl
  | some t =>
    rw [hsome] at hfraction
    simp only [Bool.and_eq_true, Bool.not_eq_true', List.isEmpty_eq_false_iff,
      List.all_eq_true] at hfraction
    refine ⟨?_, hgroups, hfraction.2⟩
    rw [Option.getD_some, if_neg hfraction.1]
    exact eq_takeWhile_append_of_fraction? hsome

/-- A text that may be written anew has the three parts, whatever key was typed. -/
lemma exists_hasParts {typed : Option String} {cursorAtEnd : Bool}
    (h : f.isFormattable s typed cursorAtEnd = true) :
    ∃ negative groups fraction, f.HasParts negative groups fraction s := by
  rw [isFormattable_eq] at h
  split at h
  · cases h
  · have hunsigned := hasParts_of_isUnsigned h
    cases s with
    | nil => exact ⟨false, _, _, hunsigned⟩
    | cons c r =>
      by_cases hc : c = '-'
      · subst hc
        exact ⟨true, _, _, congrArg ('-' :: ·) hunsigned.text_eq, hunsigned.groups,
          hunsigned.digits_fraction⟩
      · rw [withoutMinus_cons hc] at hunsigned
        exact ⟨false, _, _, hunsigned⟩

/-! ## Reading the parts -/

namespace HasParts

lemma minus_not_mem (hf : f.Lawful) (h : f.HasParts negative groups fraction s) :
    '-' ∉ groups := by
  intro hmem
  rcases h.groups _ hmem with hdigit | hthousands
  · cases hdigit
  · exact (hf.ne_of_isNumberChar (c := '-') rfl).1 hthousands

lemma decimal_not_mem (hf : f.Lawful) (h : f.HasParts negative groups fraction s) :
    f.decimal ∉ (if negative then ['-'] else []) ++ groups := by
  rw [List.mem_append]
  rintro (hmem | hmem)
  · cases negative with
    | false => cases hmem
    | true => exact (hf.ne_of_isNumberChar (c := '-') rfl).2 (List.mem_singleton.1 hmem).symm
  · rcases h.groups _ hmem with hdigit | hthousands
    · rw [isDigit_eq_false hf.decimal] at hdigit
      cases hdigit
    · exact hf.distinct hthousands.symm

/-- The text is negative exactly when it starts with a minus. -/
lemma head?_eq_minus_iff (hf : f.Lawful) (h : f.HasParts negative groups fraction s) :
    s.head? = some '-' ↔ negative = true := by
  cases negative with
  | true => simp [h.text_eq]
  | false =>
    have hdecimal : f.decimal ≠ '-' := (hf.ne_of_isNumberChar (c := '-') rfl).2.symm
    have hgroups := h.minus_not_mem hf
    rw [h.text_eq]
    cases groups with
    | nil =>
      by_cases hnone : fraction = []
      · simp [hnone]
      · simp [hnone, hdecimal]
    | cons c r => simpa [eq_comm] using (not_or.1 (mt List.mem_cons.2 hgroups)).1

/-- The fraction is what follows the decimal separator. -/
lemma fraction?_eq (hf : f.Lawful) (h : f.HasParts negative groups fraction s) :
    (f.fraction? s).getD [] = fraction := by
  have hno := h.decimal_not_mem hf
  rw [h.text_eq, ← List.append_assoc]
  by_cases hnone : fraction = []
  · rw [if_pos hnone, List.append_nil, fraction?_of_not_mem hno, hnone]
    rfl
  · rw [if_neg hnone, fraction?_append hno]
    rfl

/-- The digits of the groups are those before the decimal separator. -/
lemma whole_eq (hf : f.Lawful) (h : f.HasParts negative groups fraction s) :
    (s.takeWhile (· ≠ f.decimal)).filter Char.isDigit = groups.filter Char.isDigit := by
  have hno := h.decimal_not_mem hf
  have hfront : s.takeWhile (· ≠ f.decimal) = (if negative then ['-'] else []) ++ groups := by
    rw [h.text_eq, ← List.append_assoc]
    by_cases hnone : fraction = []
    · rw [if_pos hnone, List.append_nil, Text.takeWhile_of_not_mem hno]
    · rw [if_neg hnone, Text.takeWhile_append_cons, Text.takeWhile_of_not_mem hno]
  rw [hfront, List.filter_append]
  cases negative <;> rfl

/-- Without the separators of groups the digits are left. -/
lemma normalize_groups (hf : f.Lawful) (h : f.HasParts negative groups fraction s) :
    f.normalize groups = groups.filter Char.isDigit := by
  have hkeep : groups.filter (· ≠ f.thousands) = groups.filter Char.isDigit := by
    refine List.filter_congr fun c hc => ?_
    rcases h.groups c hc with hdigit | rfl
    · have hne : c ≠ f.thousands := by
        rintro rfl
        rw [isDigit_eq_false hf.thousands] at hdigit
        cases hdigit
      simp [hne, hdigit]
    · simp [isDigit_eq_false hf.thousands]
  have hdigits : Digits (groups.filter Char.isDigit) := fun c hc => (List.mem_filter.1 hc).2
  rw [normalize, hkeep, map_decimal_of_not_mem (hf.decimal_not_mem hdigits)]

/-- Without its separators the text is plain digits with a sign and a point. -/
lemma normalize_eq (hf : f.Lawful) (h : f.HasParts negative groups fraction s) :
    f.normalize s = Numeral.plain negative (groups.filter Char.isDigit) fraction := by
  rw [h.text_eq, normalize_append, normalize_append, normalize_sign hf, h.normalize_groups hf,
    normalize_point hf h.digits_fraction]
  rfl

/-- The text is read to its end when there is a digit, and is no number otherwise. -/
lemma read?_eq (hf : f.Lawful) (h : f.HasParts negative groups fraction s) :
    Numeral.read? (Text.trimStart (f.normalize s))
      = if groups.filter Char.isDigit = [] ∧ fraction = [] then none
        else some (⟨negative, groups.filter Char.isDigit, fraction, 0⟩, []) := by
  have hwhole : Digits (groups.filter Char.isDigit) := fun c hc => (List.mem_filter.1 hc).2
  rw [h.normalize_eq hf, Numeral.trimStart_plain negative hwhole h.digits_fraction]
  split
  · rename_i hnone
    rw [hnone.1, hnone.2, Numeral.read?_sign]
  · rename_i hsome
    exact Numeral.read?_plain negative hwhole (not_and_or.1 hsome) h.digits_fraction

/-- Every digit of the text stands in the groups or in the fraction. -/
lemma exists_isDigit_iff (h : f.HasParts negative groups fraction s) :
    (∃ c ∈ s, c.isDigit = true) ↔ ¬ (groups.filter Char.isDigit = [] ∧ fraction = []) := by
  constructor
  · rintro ⟨c, hc, hdigit⟩ ⟨hnone, rfl⟩
    rw [List.filter_eq_nil_iff] at hnone
    rw [h.text_eq, if_pos rfl, List.append_nil] at hc
    rcases List.mem_append.1 hc with hc | hc
    · cases negative with
      | false => cases hc
      | true =>
        rw [List.mem_singleton.1 hc] at hdigit
        cases hdigit
    · exact hnone c hc hdigit
  · intro hsome
    rcases not_and_or.1 hsome with hwhole | hfraction
    · obtain ⟨c, hc⟩ := List.exists_mem_of_ne_nil _ hwhole
      obtain ⟨hmem, hdigit⟩ := List.mem_filter.1 hc
      refine ⟨c, ?_, hdigit⟩
      rw [h.text_eq]
      exact List.mem_append_right _ (List.mem_append_left _ hmem)
    · obtain ⟨c, hc⟩ := List.exists_mem_of_ne_nil _ hfraction
      refine ⟨c, ?_, h.digits_fraction c hc⟩
      rw [h.text_eq, if_neg hfraction]
      exact List.mem_append_right _ (List.mem_append_right _ (List.mem_cons_of_mem _ hc))

end HasParts

/-! ## Reading a formattable text -/

/-- A numeral is the whole of a text: it is read, nothing is left behind it, and its parts are those
of the text. -/
structure IsReadInFull (f : DecimalFormat) (s : List Char) (n : Numeral) : Prop where
  /-- The reader ends at the end of the text without its separators. -/
  read?_eq : Numeral.read? (Text.trimStart (f.normalize s)) = some (n, [])
  /-- That text is the numeral. -/
  normalize_eq : f.normalize s = Numeral.plain n.negative n.whole n.fraction
  /-- The sign is a minus at the front of the text. -/
  negative_iff : n.negative = true ↔ s.head? = some '-'
  /-- The whole part has the digits before the decimal separator, without the groups. -/
  whole_eq : n.whole = (s.takeWhile (· ≠ f.decimal)).filter Char.isDigit
  /-- The fraction is what follows the decimal separator. -/
  fraction_eq : n.fraction = (f.fraction? s).getD []
  /-- It is made of digits. -/
  digits_fraction : Digits n.fraction
  /-- There is no power of ten. -/
  exponent_eq : n.exponent = 0

variable {n : Numeral}

lemma IsReadInFull.parse_eq (h : f.IsReadInFull s n) : f.parse s = some n.toDouble := by
  rw [parse, h.read?_eq]
  rfl

lemma IsReadInFull.digits_whole (h : f.IsReadInFull s n) : Digits n.whole := by
  intro c hc
  rw [h.whole_eq] at hc
  exact (List.mem_filter.1 hc).2

/-- A text that may be written anew is read in full when it has a digit, and is no number when it
has none. -/
lemma isReadInFull_or_parse_eq_none (hf : f.Lawful) {typed : Option String} {cursorAtEnd : Bool}
    (h : f.isFormattable s typed cursorAtEnd = true) :
    ((∃ c ∈ s, c.isDigit = true) ∧ ∃ n, f.IsReadInFull s n)
      ∨ (¬ (∃ c ∈ s, c.isDigit = true) ∧ f.parse s = none) := by
  obtain ⟨negative, groups, fraction, hparts⟩ := exists_hasParts h
  have hread := hparts.read?_eq hf
  rw [hparts.exists_isDigit_iff]
  by_cases hnone : groups.filter Char.isDigit = [] ∧ fraction = []
  · rw [if_pos hnone] at hread
    refine .inr ⟨not_not.2 hnone, ?_⟩
    rw [parse, hread]
    rfl
  · rw [if_neg hnone] at hread
    exact .inl ⟨hnone, _, hread, hparts.normalize_eq hf, (hparts.head?_eq_minus_iff hf).symm,
      (hparts.whole_eq hf).symm, (hparts.fraction?_eq hf).symm, hparts.digits_fraction, rfl⟩

/-- Formattable text is read in full.  In any locale and with any number of places, a text that may
be written anew, whatever key was typed and wherever the cursor is, is a number exactly when it has
a digit.  The number is then that of the whole text without its separators: the reader leaves
nothing behind, the sign is that of a minus at the front, the digits before the point are those
before the decimal separator, and the fraction is what follows it. -/
theorem formattable_text_is_read_in_full (code : String) (places : Nat) (s : List Char)
    (typed : Option String) (cursorAtEnd : Bool)
    (h : (new code places).isFormattable s typed cursorAtEnd = true) :
    let f := new code places
    ((f.parse s).isSome = true ↔ ∃ c ∈ s, c.isDigit = true) ∧
      ∀ x, f.parse s = some x → ∃ n m, f.IsReadInFull s n ∧ x = n.toDouble
        ∧ x = .signed n.negative m := by
  intro f
  have hf : f.Lawful := lawful_new code places
  rcases isReadInFull_or_parse_eq_none hf h with ⟨hdigit, n, hn⟩ | ⟨hnone, hparse⟩
  · obtain ⟨m, hm⟩ := n.exists_toDouble_eq
    refine ⟨by simp [hn.parse_eq, hdigit], fun x hx => ⟨n, m, hn, ?_⟩⟩
    rw [hn.parse_eq] at hx
    obtain rfl := Option.some.inj hx
    exact ⟨rfl, hm⟩
  · refine ⟨by simp [hparse, hnone], fun x hx => ?_⟩
    rw [hparse] at hx
    cases hx

/-- In the German locale with two places: points stand anywhere among the digits, and every digit is
read, also those of the fraction for which there is no place. -/
theorem german_text_read_in_full :
    let f := new "de-DE" 2
    let s := "-.1.2345,678".toList
    f.isFormattable s (some "8") true = true ∧ (∃ c ∈ s, c.isDigit = true)
      ∧ f.IsReadInFull s ⟨true, "12345".toList, "678".toList, 0⟩ := by
  intro f s
  have hformattable : f.isFormattable s (some "8") true = true := by decide
  obtain ⟨hsome, hread⟩ := formattable_text_is_read_in_full "de-DE" 2 s (some "8") true hformattable
  have hdigit : ∃ c ∈ s, c.isDigit = true := ⟨'1', by decide, rfl⟩
  obtain ⟨x, hx⟩ := Option.isSome_iff_exists.1 (hsome.2 hdigit)
  obtain ⟨n, -, hn, -, -⟩ := hread x hx
  have hnumeral : Numeral.read? (Text.trimStart (f.normalize s))
      = some (⟨true, "12345".toList, "678".toList, 0⟩, []) := by decide
  obtain rfl : n = ⟨true, "12345".toList, "678".toList, 0⟩ := by
    rw [hn.read?_eq] at hnumeral
    exact (Prod.mk.inj (Option.some.inj hnumeral)).1
  exact ⟨hformattable, hdigit, hn⟩

end DecimalFormat

end GridRules
