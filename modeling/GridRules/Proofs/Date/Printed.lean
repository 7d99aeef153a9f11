import GridRules.Proofs.Date.Entries
import GridRules.Proofs.Text.Parts

/-!
# Printed dates and ranges

The text of a day is read back as that day (`Date.ofChars_chars`): reading the items of a day with
hyphens takes exactly the year, the month and the day of the month off the front of the text,
whatever follows (`Notation.moment?_day_append`), because a year below ten thousand has four digits
and any other year has a sign.

A printed day holds digits, hyphens and plus signs only.  So neither the comma between ranges nor
the hyphen in spaces between bounds occurs inside of one, and a list of ranges in print is cut into
the texts of its bounds again.
-/

namespace GridRules

/-! ## Reading the items of a printed day -/

namespace Item

variable {ds rest : List Char} {width : Nat}

/-- A run of digits at the front of a text is read whole, when it fills the width or something else
follows. -/
lemma digitsUpTo?_append (hds : ∀ c ∈ ds, c.isDigit = true) (hne : ds ≠ [])
    (hwidth : ds.length ≤ width)
    (hrest : ds.length = width ∨ ∀ c ∈ rest.head?, c.isDigit = false) :
    digitsUpTo? width (ds ++ rest) = some (Text.ofDigits ds, rest) := by
  have hstop : (rest.take (width - ds.length)).takeWhile Char.isDigit = [] := by
    rcases hrest with hfull | hother
    · rw [hfull, Nat.sub_self, List.take_zero, List.takeWhile_nil]
    · cases rest with
      | nil => rw [List.take_nil, List.takeWhile_nil]
      | cons c rest =>
        have hc : c.isDigit = false := hother c rfl
        cases width - ds.length <;> simp [hc]
  have hrun : ((ds ++ rest).take width).takeWhile Char.isDigit = ds := by
    rw [List.take_append, List.take_of_length_le hwidth, List.takeWhile_append_of_pos hds, hstop,
      List.append_nil]
  simp only [digitsUpTo?, hrun, if_neg hne, List.drop_left]

lemma padded_ne_nil {n : Nat} (hwidth : 0 < width) : Text.padded width n ≠ [] :=
  List.ne_nil_of_length_pos (hwidth.trans_le (Text.le_length_padded width n))

/-- The digits of a number up to the width that is read. -/
lemma digitsUpTo?_padded {n : Nat} (hwidth : 0 < width) (hn : n < Nat.pow 10 width)
    (rest : List Char) :
    digitsUpTo? width (Text.padded width n ++ rest) = some (n, rest) := by
  have hlength := Text.length_padded hwidth hn
  rw [digitsUpTo?_append (fun _ => Text.isDigit_of_mem_padded) (padded_ne_nil hwidth) hlength.le
    (.inl hlength), Text.ofDigits_padded]

/-- A signed year has any number of digits. -/
lemma digitsUpTo?_signed (n : Nat) (rest : List Char) :
    digitsUpTo? (Text.padded 4 n ++ '-' :: rest).length (Text.padded 4 n ++ '-' :: rest)
      = some (n, '-' :: rest) := by
  rw [digitsUpTo?_append (fun _ => Text.isDigit_of_mem_padded) (padded_ne_nil (by decide))
    (by simp) (.inr (by simp)), Text.ofDigits_padded]

lemma partNumber?_of_isDigit {c : Char} (h : c.isDigit = true) (s : List Char) :
    partNumber? .year (c :: s)
      = (digitsUpTo? 4 (c :: s)).map fun (n, rest) => ((n : Int), rest) := by
  unfold partNumber?
  split
  · rename_i hs
    obtain rfl := (List.cons.inj hs).1
    cases h
  · rename_i hs
    obtain rfl := (List.cons.inj hs).1
    cases h
  · rfl
  · rename_i hyear _ _
    exact absurd rfl hyear

/-- A year of four digits needs no sign, whatever follows it. -/
lemma partNumber?_padded {n : Nat} (hn : n < Nat.pow 10 4) (rest : List Char) :
    partNumber? .year (Text.padded 4 n ++ rest) = some ((n : Int), rest) := by
  have hread := digitsUpTo?_padded (by decide) hn rest
  obtain ⟨c, ds, hds⟩ := List.exists_cons_of_ne_nil (padded_ne_nil (n := n) (show 0 < 4 by decide))
  have hc : c.isDigit = true := Text.isDigit_of_mem_padded (hds ▸ List.mem_cons_self)
  rw [hds, List.cons_append] at hread ⊢
  rw [partNumber?_of_isDigit hc, hread]
  rfl

lemma partNumber?_minus (s : List Char) :
    partNumber? .year ('-' :: s)
      = (digitsUpTo? s.length s).map fun (n, rest) => (-(n : Int), rest) :=
  rfl

lemma partNumber?_plus (s : List Char) :
    partNumber? .year ('+' :: s)
      = (digitsUpTo? s.length s).map fun (n, rest) => ((n : Int), rest) :=
  rfl

lemma partNumber?_yearText (year : Int) (rest : List Char) :
    partNumber? .year (Date.yearText year ++ '-' :: rest) = some (year, '-' :: rest) := by
  unfold Date.yearText
  by_cases hneg : year < 0
  · have hyear : -(year.natAbs : Int) = year := by omega
    rw [if_pos hneg, List.cons_append, partNumber?_minus, digitsUpTo?_signed]
    exact congrArg (fun n => some (n, '-' :: rest)) hyear
  have hyear : (year.natAbs : Int) = year := by omega
  by_cases hfar : 9999 < year
  · rw [if_neg hneg, if_pos hfar, List.cons_append, partNumber?_plus, digitsUpTo?_signed]
    exact congrArg (fun n => some (n, '-' :: rest)) hyear
  · have hfour : year.natAbs < 10000 := by omega
    rw [if_neg hneg, if_neg hfar, partNumber?_padded hfour]
    exact congrArg (fun n => some (n, '-' :: rest)) hyear

end Item

namespace Date

/-- A character that occurs in the text of a day. -/
def IsPrinted (c : Char) : Prop := c.isDigit = true ∨ c = '-' ∨ c = '+'

instance (c : Char) : Decidable (IsPrinted c) := inferInstanceAs (Decidable (_ ∨ _ ∨ _))

lemma IsPrinted.isWhite {c : Char} (h : IsPrinted c) : Text.isWhite c = false := by
  rcases h with h | rfl | rfl
  · exact Text.isWhite_of_isDigit h
  · decide
  · decide

lemma isPrinted_of_mem_padded {width n : Nat} {c : Char} (h : c ∈ Text.padded width n) :
    IsPrinted c := .inl (Text.isDigit_of_mem_padded h)

lemma isPrinted_of_mem_yearText {year : Int} {c : Char} (h : c ∈ yearText year) : IsPrinted c := by
  unfold yearText at h
  split at h
  · rcases List.mem_cons.1 h with rfl | h
    · exact .inr (.inl rfl)
    · exact isPrinted_of_mem_padded h
  split at h
  · rcases List.mem_cons.1 h with rfl | h
    · exact .inr (.inr rfl)
    · exact isPrinted_of_mem_padded h
  · exact isPrinted_of_mem_padded h

lemma isPrinted_of_mem_chars {d : Date} {c : Char} (h : c ∈ d.chars) : IsPrinted c := by
  simp only [chars, List.mem_append, List.mem_cons] at h
  rcases h with (h | rfl | h) | rfl | h
  · exact isPrinted_of_mem_yearText h
  · exact .inr (.inl rfl)
  · exact isPrinted_of_mem_padded h
  · exact .inr (.inl rfl)
  · exact isPrinted_of_mem_padded h

/-! ## Reading a printed day -/

variable (d : Date)

lemma year_ne_nil : yearText d.year ≠ [] := by
  unfold yearText
  split
  · exact List.cons_ne_nil _ _
  split
  · exact List.cons_ne_nil _ _
  · exact Item.padded_ne_nil (by decide)

/-- No white space stands before printed text. -/
lemma trimStart_printed {s : List Char} (hne : s ≠ []) (h : ∀ c ∈ s, IsPrinted c)
    (rest : List Char) : Text.trimStart (s ++ rest) = s ++ rest := by
  obtain ⟨c, s, rfl⟩ := List.exists_cons_of_ne_nil hne
  exact Text.trimStart_cons (h c List.mem_cons_self).isWhite

end Date

/-! ### The items of a day -/

namespace Item

lemma read?_year (d : Date) (m : Moment) (rest : List Char) :
    (number .year).read? m (Date.yearText d.year ++ '-' :: rest)
      = some (m.set .year d.year, '-' :: rest) := by
  rw [read?, Date.trimStart_printed d.year_ne_nil fun _ => Date.isPrinted_of_mem_yearText,
    partNumber?_yearText]
  rfl

/-- A part other than the year takes two digits, whatever follows them. -/
lemma read?_part {part : Part} (hpart : part ≠ .year) {n : Nat} (hn : n < 100) (m : Moment)
    (rest : List Char) :
    (number part).read? m (Text.padded 2 n ++ rest) = some (m.set part n, rest) := by
  have hread := digitsUpTo?_padded (show 0 < 2 by decide) hn rest
  have hnumber : partNumber? part (Text.padded 2 n ++ rest) = some ((n : Int), rest) := by
    cases part with
    | year => exact absurd rfl hpart
    | _ => exact congrArg (Option.map fun (n, rest) => ((n : Int), rest)) hread
  rw [read?, Date.trimStart_printed (padded_ne_nil (by decide))
    fun _ => Date.isPrinted_of_mem_padded, hnumber]
  rfl

lemma read?_hyphen (m : Moment) (rest : List Char) :
    (oneOf ['-']).read? m ('-' :: rest) = some (m, rest) := rfl

end Item

namespace Notation

lemma moment?_cons {item : Item} {m m' : Moment} {s rest : List Char}
    (h : item.read? m s = some (m', rest)) (items : Notation) :
    moment? (item :: items) m s = moment? items m' rest := by
  rw [moment?, h]

/-- The items of a day with hyphens take exactly the text of a day off the front of a text. -/
lemma moment?_day_append (d : Date) (items : Notation) (rest : List Char) :
    moment? (day ++ items) .start (d.chars ++ rest)
      = moment? items ⟨d.year, d.month, d.day, 0, 0, 0⟩ rest := by
  obtain ⟨-, ⟨-, hmonth⟩, ⟨-, hday⟩⟩ := d.isDay
  have hdays := Date.daysInMonth_le d.year d.month
  have hchars : d.chars ++ rest = Date.yearText d.year
      ++ '-' :: (Text.padded 2 d.month ++ '-' :: (Text.padded 2 d.day ++ rest)) := by
    simp only [Date.chars, List.append_assoc, List.cons_append]
  rw [hchars]
  calc moment? (day ++ items) .start _
      = moment? _ (Moment.start.set .year d.year) _ := moment?_cons (Item.read?_year d _ _) _
    _ = moment? _ _ _ := moment?_cons (Item.read?_hyphen _ _) _
    _ = moment? _ _ _ := moment?_cons (Item.read?_part (by decide) (by omega) _ _) _
    _ = moment? _ _ _ := moment?_cons (Item.read?_hyphen _ _) _
    _ = moment? _ _ rest := moment?_cons (Item.read?_part (by decide) (by omega) _ _) _
    _ = _ := rfl

lemma date?_chars (d : Date) : date? day d.chars = some d := by
  have hread := moment?_day_append d [] []
  rw [List.append_nil, List.append_nil] at hread
  rw [date?, hread]
  exact dif_pos d.isDay

end Notation

namespace Date

variable (d : Date)

lemma trim_chars : Text.trim d.chars = d.chars :=
  Text.trim_of_forall fun _ hc => (isPrinted_of_mem_chars hc).isWhite

/-- A day that is printed is read back, with white space before it or without. -/
lemma ofChars_of_trim {s : List Char} (h : Text.trim s = d.chars) : ofChars s = .ok d := by
  have hread : ofTrimmed? d.chars = some d := by
    rw [ofTrimmed?, Notation.all, List.findSome?_cons, Notation.date?_chars]
  rw [ofChars, h, hread]

lemma ofChars_chars : ofChars d.chars = .ok d := d.ofChars_of_trim d.trim_chars

lemma ofText_toText : ofText d.toText = .ok d := by
  rw [ofText, toText, String.toList_ofList, ofChars_chars]

end Date

/-! ## Ranges in print -/

namespace DateRange

/-- A range in print: its bounds with a hyphen in spaces between them. -/
def chars (range : DateRange) : List Char := range.first.chars ++ boundSeparator ++ range.last.chars

/-- Ranges in print, with a comma and a space between them. -/
def listText (ranges : List DateRange) : String :=
  String.ofList ([',', ' '].intercalate (ranges.map chars))

/-- A range as a pair of texts. -/
def toPair (range : DateRange) : Value :=
  .array [.string range.first.toText, .string range.last.toText]

variable (range : DateRange)

lemma not_mem_chars {c : Char} (h : ¬ Date.IsPrinted c) (d : Date) : c ∉ d.chars :=
  fun hc => h (Date.isPrinted_of_mem_chars hc)

/-- The first bound of a printed range ends at the first space. -/
lemma splitOnce_chars :
    Text.splitOnce boundSeparator range.chars = some (range.first.chars, range.last.chars) :=
  Text.splitOnce_of_not_mem (not_mem_chars (by decide) range.first) ['-', ' '] _

/-- A printed day has two characters at least, so a space before it does not stand before a hyphen
and a space. -/
lemma not_prefix_chars (d : Date) (rest : List Char) :
    ¬ boundSeparator <+: ' ' :: (d.chars ++ rest) := by
  intro h
  have hspace := not_mem_chars (c := ' ') (by decide) d
  have hlength : 2 ≤ d.chars.length := by
    have := List.length_pos_iff.2 d.year_ne_nil
    simp only [Date.chars, List.length_append, List.length_cons]
    omega
  obtain ⟨a, b, r, hchars⟩ : ∃ a b r, d.chars = a :: b :: r := by
    match hd : d.chars with
    | [] => simp [hd] at hlength
    | [_] => simp [hd] at hlength
    | a :: b :: r => exact ⟨a, b, r, rfl⟩
  rw [hchars] at h hspace
  have hb : ' ' = b := (List.cons_prefix_cons.1 (List.cons_prefix_cons.1
    (List.cons_prefix_cons.1 h).2).2).1
  exact hspace (hb ▸ List.mem_cons_of_mem _ List.mem_cons_self)

/-- The text of a day does not hold the separator of bounds. -/
lemma splitOnce_day (d : Date) : Text.splitOnce boundSeparator d.chars = none := by
  rw [Text.splitOnce_eq_none_iff (by decide)]
  intro h
  exact not_mem_chars (c := ' ') (by decide) d (h.subset List.mem_cons_self)

lemma ofEntry_of_cut {entry first : List Char}
    (hcut : Text.splitOnce boundSeparator entry = some (first, range.last.chars))
    (hfirst : Text.trim first = range.first.chars) : ofEntry entry = .ok range := by
  rw [ofEntry, hcut]
  simp only [splitOnce_day]
  exact ofBounds_eq_ok_iff.2 ⟨range.first.ofChars_of_trim hfirst, range.last.ofChars_chars⟩

/-- A range is read back from its text, at the front of a list or after a comma and a space. -/
lemma ofEntry_chars :
    ofEntry range.chars = .ok range ∧ ofEntry (' ' :: range.chars) = .ok range := by
  constructor
  · exact range.ofEntry_of_cut range.splitOnce_chars range.first.trim_chars
  · have hcut : Text.splitOnce boundSeparator (' ' :: range.chars)
        = some (' ' :: range.first.chars, range.last.chars) := by
      rw [chars, List.append_assoc, Text.splitOnce_later (not_prefix_chars _ _),
        ← List.append_assoc, ← chars, splitOnce_chars]
      rfl
    refine range.ofEntry_of_cut hcut ?_
    rw [Text.trim_cons (by decide), Date.trim_chars]

/-- The parts of ranges in print: every part but the first has a space in front. -/
def parts : List DateRange → List (List Char)
  | [] => []
  | range :: rest => range.chars :: rest.map fun r => ' ' :: r.chars

lemma map_ofEntry_parts (ranges : List DateRange) :
    (parts ranges).map ofEntry = ranges.map .ok := by
  cases ranges with
  | nil => rfl
  | cons range rest =>
    rw [parts, List.map_cons, List.map_cons, List.map_map, range.ofEntry_chars.1]
    exact congrArg _ (List.map_congr_left fun r _ => r.ofEntry_chars.2)

lemma mem_parts {ranges : List DateRange} {part : List Char} (h : part ∈ parts ranges) :
    ∃ range : DateRange, part = range.chars ∨ part = ' ' :: range.chars := by
  cases ranges with
  | nil => cases h
  | cons range rest =>
    rcases List.mem_cons.1 h with rfl | h
    · exact ⟨range, .inl rfl⟩
    · obtain ⟨r, -, rfl⟩ := List.mem_map.1 h
      exact ⟨r, .inr rfl⟩

/-- No part holds a comma. -/
lemma comma_not_mem_parts {ranges : List DateRange} : ∀ part ∈ parts ranges, ',' ∉ part := by
  intro part hpart
  obtain ⟨range, h⟩ := mem_parts hpart
  have hdate : ∀ d : Date, ',' ∉ d.chars := not_mem_chars (by decide)
  have hrange : ',' ∉ range.chars := by
    simp [chars, boundSeparator, hdate]
  rcases h with rfl | rfl
  · exact hrange
  · simp [hrange]

/-- No part is blank: it would be no range then. -/
lemma isBlank_of_mem_parts {ranges : List DateRange} {part : List Char} (h : part ∈ parts ranges) :
    Text.isBlank part = false := by
  obtain ⟨range, hpart⟩ := mem_parts h
  obtain ⟨c, first, hfirst⟩ := List.exists_cons_of_ne_nil range.first.year_ne_nil
  have hc : Text.isWhite c = false :=
    (Date.isPrinted_of_mem_yearText (hfirst ▸ List.mem_cons_self)).isWhite
  rw [Text.isBlank, List.all_eq_false]
  rcases hpart with rfl | rfl <;> exact ⟨c, by simp [chars, Date.chars, hfirst], by simp [hc]⟩

lemma listText_toList (ranges : List DateRange) :
    (listText ranges).toList = [','].intercalate (parts ranges) := by
  rw [listText, String.toList_ofList]
  cases ranges with
  | nil => rfl
  | cons range rest =>
    rw [List.map_cons, Text.intercalate_pair, List.map_map]
    rfl

lemma entries_listText (ranges : List DateRange) :
    entries (listText ranges).toList = parts ranges := by
  rw [entries, listText_toList]
  cases ranges with
  | nil => rfl
  | cons range rest =>
    have hne : parts (range :: rest) ≠ [] := List.cons_ne_nil _ _
    rw [List.splitOn_intercalate _ comma_not_mem_parts hne, List.filter_eq_self]
    intro part hpart
    rw [isBlank_of_mem_parts hpart, Bool.not_false]

lemma ofText_listText (ranges : List DateRange) : ofText (listText ranges) = .ok ranges := by
  rw [ofText, entries_listText, map_ofEntry_parts, collect_eq_ok_iff]

lemma ofValue_toPairs (ranges : List DateRange) :
    ofValue (.array (ranges.map toPair)) = .ok ranges := by
  rw [ofValue, collect_eq_ok_iff, results, List.map_map]
  refine List.map_congr_left fun range _ => ?_
  rw [Function.comp_apply, ofPair_eq_ok_iff]
  exact ⟨_, _, rfl, range.first.ofText_toText, range.last.ofText_toText⟩

end DateRange

/-- What is printed is read back.  The text of every day is read as that day, so a filter of any
state takes the day of an active filter from its model.  Ranges in print, with commas between them,
are read as the same ranges, and so is the list of their pairs of texts. -/
theorem printed_dates_are_read_back :
    (∀ d : Date, Date.ofText d.toText = .ok d)
      ∧ (∀ f g : DateFilter, f.isActive = true →
        ∃ model, f.model? = some model ∧ g.restore (some model) = .ok { g with date := f.date })
      ∧ (∀ ranges, DateRange.ofText (DateRange.listText ranges) = .ok ranges)
      ∧ ∀ ranges, DateRange.ofValue (.array (ranges.map DateRange.toPair)) = .ok ranges := by
  refine ⟨Date.ofText_toText, fun f g hf => ?_, DateRange.ofText_listText,
    DateRange.ofValue_toPairs⟩
  obtain ⟨d, hd⟩ := Option.isSome_iff_exists.1 hf
  refine ⟨⟨d.toText, dateFilterType⟩, by rw [DateFilter.model?, hd, Option.map_some], ?_⟩
  have hsets : FilterCall.Sets (.restore (some ⟨d.toText, dateFilterType⟩)) (some d) :=
    .model (.date d.ofText_toText)
  rw [hd]
  exact FilterCall.outcome_of_sets hsets g

/-- The model of a filter on a day before the year zero sets the day of a filter on another day. -/
theorem printed_day_of_negative_year :
    let ides : Date := ⟨-44, 3, 15, by decide⟩
    let f : DateFilter := ⟨"runtime", none, some ides⟩
    let g : DateFilter := ⟨"period", some "ranges", some ⟨2024, 1, 5, by decide⟩⟩
    f.isActive = true ∧ ides.toText = "-0044-03-15"
      ∧ ∃ model, f.model? = some model
        ∧ g.restore (some model) = .ok ⟨"period", some "ranges", some ides⟩ :=
  ⟨rfl, by decide +kernel, printed_dates_are_read_back.2.1 _ _ rfl⟩

end GridRules
