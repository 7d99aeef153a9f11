import GridRules.Proofs.Date.DayNotations
import GridRules.Proofs.Date.FirstDate

/-!
# The order of days and ranges

A range text is a day or two days with a hyphen between them, in any white space, each day with
hyphens or with points (`Date.WritesRange`).  The order of range texts finds the first day in every
such text, although the hyphen between two days looks like those inside of them:

* where a hyphen in spaces is found, it is the one between the days, since no date holds one;
* where the whole text is a date, it is the first day, since a text that starts with a day with
  hyphens is read as this day or not at all;
* otherwise a first day with hyphens fills the first ten bytes, and a first day with points ends at
  the first hyphen.
-/

namespace GridRules

open Text (White)

lemma Text.white_nil : White [] := fun _ hc => absurd hc List.not_mem_nil

namespace Date

/-- The text of a day in full width, with hyphens or with points. -/
def IsFullWidth (d : Date) (a : List Char) : Prop := a = d.chars ∨ a = d.pointedChars

/-- A text writes a day, or a range that starts with this day. -/
inductive WritesRange (d : Date) : List Char → Prop
  /-- One day in white space. -/
  | day {w a u : List Char} (hw : White w) (ha : d.IsFullWidth a) (hu : White u) :
    d.WritesRange (w ++ a ++ u)
  /-- Two days in white space, with a hyphen between them. -/
  | range {w a before after b u : List Char} {last : Date} (hw : White w) (ha : d.IsFullWidth a)
      (hbefore : White before) (hafter : White after) (hlast : last.HasPlainYear)
      (hb : last.IsFullWidth b) (hu : White u) :
    d.WritesRange (w ++ (a ++ before ++ '-' :: (after ++ b)) ++ u)

variable {d e : Date} {a w u : List Char}

lemma IsFullWidth.writes (h : d.IsFullWidth a) : d.Writes a := by
  rcases h with rfl | rfl
  · exact .day
  · exact .pointed

lemma IsFullWidth.ofChars_surrounded (h : d.IsFullWidth a) (hd : d.HasPlainYear) (hw : White w)
    (hu : White u) : ofChars (w ++ a ++ u) = .ok d :=
  ofChars_of_isWritten hd ⟨w, a, u, hw, hu, h.writes, rfl⟩

lemma IsFullWidth.ofChars_eq (h : d.IsFullWidth a) (hd : d.HasPlainYear) : ofChars a = .ok d := by
  have hread := h.ofChars_surrounded hd Text.white_nil Text.white_nil
  rwa [List.nil_append, List.append_nil] at hread

/-! ## Ten bytes -/

lemma utf8Size_of_isDigit {c : Char} (h : c.isDigit = true) : c.utf8Size = 1 := by
  simp only [Char.isDigit, Bool.and_eq_true, decide_eq_true_eq, ge_iff_le] at h
  exact Char.utf8Size_eq_one_iff.2 (UInt32.le_trans h.2 (by decide))

/-- The text of a day in full width has ten characters of one byte. -/
lemma IsFullWidth.ten_bytes (h : d.IsFullWidth a) (hd : d.HasPlainYear) :
    a.length = 10 ∧ ∀ c ∈ a, c.utf8Size = 1 := by
  have hyear := Text.length_padded (show 0 < 4 by decide) (Notation.toNat_year_lt hd)
  have hmonth := Text.length_padded (show 0 < 2 by decide) (Notation.month_lt d)
  have hday := Text.length_padded (show 0 < 2 by decide) (Notation.day_lt d)
  have hdigits : ∀ width n, ∀ c ∈ Text.padded width n, c.utf8Size = 1 := fun _ _ _ hc =>
    utf8Size_of_isDigit (Text.isDigit_of_mem_padded hc)
  have hhyphen : '-'.utf8Size = 1 := by decide
  have hpoint : '.'.utf8Size = 1 := by decide
  rcases h with rfl | rfl
  · rw [chars, Notation.yearText_eq hd]
    refine ⟨by simp [hyear, hmonth, hday], ?_⟩
    simp only [List.forall_mem_append, List.forall_mem_cons]
    exact ⟨⟨hdigits _ _, hhyphen, hdigits _ _⟩, hhyphen, hdigits _ _⟩
  · rw [pointedChars]
    refine ⟨by simp [hyear, hmonth, hday], ?_⟩
    simp only [List.forall_mem_append, List.forall_mem_cons]
    exact ⟨hdigits _ _, hpoint, hdigits _ _, hpoint, hdigits _ _⟩

lemma IsFullWidth.ne_nil (h : d.IsFullWidth a) (hd : d.HasPlainYear) : a ≠ [] :=
  List.ne_nil_of_length_eq_add_one (h.ten_bytes hd).1

lemma IsFullWidth.not_white (h : d.IsFullWidth a) : ∀ c ∈ a, Text.isWhite c = false := by
  rcases h with rfl | rfl
  · exact not_white_chars d
  · exact not_white_pointedChars d

end Date

/-- Characters of one byte are taken one by one. -/
lemma takeBytes?_append {s : List Char} (h : ∀ c ∈ s, c.utf8Size = 1) (t : List Char) :
    takeBytes? s.length (s ++ t) = some s := by
  induction s with
  | nil => cases t <;> rfl
  | cons c s ih =>
    obtain ⟨hc, hs⟩ := List.forall_mem_cons.1 h
    rw [List.length_cons, List.cons_append, takeBytes?, if_pos (by omega), hc, Nat.add_sub_cancel,
      ih hs]
    rfl

namespace DateRange

open Text (splitOnce)

/-! ## The first bound of a range -/

variable {s t head tail : List Char} {d e : Date}

/-- Where the separator of bounds occurs only around the hyphen between two texts, that is where
the text is cut. -/
lemma eq_of_cut_at_hyphen (hs : ¬ boundSeparator <:+: s) (ht : ¬ boundSeparator <:+: t)
    (h : s ++ '-' :: t = head ++ boundSeparator ++ tail) : s = head ++ [' '] := by
  have hcut : s ++ '-' :: t = (head ++ [' ']) ++ '-' :: (' ' :: tail) := by
    simpa [boundSeparator] using h
  rcases List.append_eq_append_iff.1 hcut with ⟨more, hhead, hrest⟩ | ⟨more, hfront, hrest⟩
  · cases more with
    | nil => rw [hhead, List.append_nil]
    | cons c more =>
      -- the separator would stand in the second text
      obtain ⟨rfl, rfl⟩ := List.cons.inj hrest
      rcases List.eq_nil_or_concat' more with rfl | ⟨more, x, rfl⟩
      · exact absurd (List.append_inj' hhead rfl).2 (by decide)
      · rw [← List.cons_append, ← List.append_assoc] at hhead
        obtain ⟨-, hx⟩ := List.append_inj' hhead rfl
        obtain rfl := List.singleton_inj.1 hx
        exact absurd ⟨more, tail, by simp [boundSeparator]⟩ ht
  · cases more with
    | nil => rw [hfront, List.append_nil]
    | cons c more =>
      -- the separator would stand in the first text
      obtain ⟨rfl, hmore⟩ := List.cons.inj hrest
      cases more with
      | nil => exact absurd (List.cons.inj hmore).1 (by decide)
      | cons x more =>
        obtain ⟨rfl, -⟩ := List.cons.inj hmore
        exact absurd ⟨head, more, by simp [hfront, boundSeparator]⟩ hs

/-- A text that starts with a day with hyphens is no other date. -/
lemma ofTrimmed?_of_day_first (hd : d.HasPlainYear) {rest : List Char}
    (h : (Date.ofTrimmed? (d.chars ++ rest)).isSome = true) :
    Date.ofTrimmed? (d.chars ++ rest) = some d := by
  refine (Date.ofTrimmed?_cases fun _ hitems =>
    Notation.date?_hyphens_cases hd hitems rest).resolve_left fun hnone => ?_
  rw [hnone] at h
  cases h

/-- Nothing is trimmed from two days with a hyphen between them. -/
lemma trim_range {a b : List Char} {last : Date} (hd : d.HasPlainYear) (ha : d.IsFullWidth a)
    (before after : List Char) (hlast : last.HasPlainYear) (hb : last.IsFullWidth b) :
    Text.trim (a ++ before ++ '-' :: (after ++ b)) = a ++ before ++ '-' :: (after ++ b) := by
  have hparts := Text.trim_of_parts ha.not_white (ha.ne_nil hd) (before ++ '-' :: after)
    hb.not_white (hb.ne_nil hlast)
  simpa using hparts

/-- The first bound of two days with a hyphen between them is the first day. -/
lemma firstBound_of_range {a before after b : List Char} {last : Date} (hd : d.HasPlainYear)
    (ha : d.IsFullWidth a) (hbefore : White before) (hafter : White after)
    (hlast : last.HasPlainYear) (hb : last.IsFullWidth b) :
    Date.ofChars ((firstBound (a ++ before ++ '-' :: (after ++ b))).takeWhile (· ≠ ','))
      = .ok d := by
  have hfirst : Date.ofChars (a ++ before) = .ok d := by
    have hread := ha.ofChars_surrounded hd Text.white_nil hbefore
    rwa [List.nil_append] at hread
  have hsecond : Date.ofChars (after ++ b) = .ok last := by
    have hread := hb.ofChars_surrounded hlast hafter Text.white_nil
    rwa [List.append_nil] at hread
  -- what is read as the day has no comma
  have hfound : ∀ {t : List Char}, Date.ofChars t = .ok d →
      Date.ofChars (t.takeWhile (· ≠ ',')) = .ok d := fun ht => by
    rwa [Text.takeWhile_of_not_mem (Date.comma_not_mem ht)]
  rw [firstBound]
  cases hcut : splitOnce boundSeparator (a ++ before ++ '-' :: (after ++ b)) with
  | some cut =>
    obtain ⟨head, tail⟩ := cut
    have hhead := eq_of_cut_at_hyphen (Date.separator_not_infix hfirst)
      (Date.separator_not_infix hsecond) (Text.eq_of_splitOnce hcut)
    rw [hhead, Date.ofChars_concat (by decide)] at hfirst
    exact hfound hfirst
  | none =>
    have hbytes : takeBytes? 10 (a ++ before ++ '-' :: (after ++ b)) = some a := by
      obtain ⟨hlength, hsize⟩ := ha.ten_bytes hd
      rw [List.append_assoc, ← hlength]
      exact takeBytes?_append hsize _
    have htrim := trim_range hd ha before after hlast hb
    dsimp only
    rcases ha with rfl | rfl
    · split
      · -- the whole text is read, as the day at its front
        rename_i hwhole
        rw [htrim, List.append_assoc] at hwhole
        refine hfound (Date.ofChars_eq_ok_iff.2 ?_)
        rw [htrim, List.append_assoc]
        exact ofTrimmed?_of_day_first hd hwhole
      · -- the first ten bytes are the day
        rw [hbytes, Option.filter_some, Notation.date?_chars, Option.isSome_some, if_pos rfl]
        exact hfound d.ofChars_chars
    · have hhyphen : '-' ∉ d.pointedChars ++ before := by
        rw [List.mem_append, not_or]
        exact ⟨Notation.hyphen_not_mem_pointedChars d, hbefore.not_mem (by decide)⟩
      have hfront : (d.pointedChars ++ before ++ '-' :: (after ++ b)).takeWhile (· ≠ '-')
          = d.pointedChars ++ before := by
        rw [Text.takeWhile_append_cons, Text.takeWhile_of_not_mem hhyphen]
      split
      · -- a date is not cut by a bare hyphen into another one
        rename_i hwhole
        obtain ⟨other, hother⟩ := Option.isSome_iff_exists.1 hwhole
        have hno := Date.not_date_before_hyphen (Date.ofChars_eq_ok_iff.2 hother) (by simp) d
        rw [hfront] at hno
        exact absurd hfirst hno
      · split
        · rename_i front hfilter
          rw [hbytes] at hfilter
          obtain ⟨hsome, -⟩ := Option.filter_eq_some_iff.1 hfilter
          obtain rfl := Option.some.inj hsome
          exact hfound (Date.IsFullWidth.ofChars_eq (.inr rfl) hd)
        · rw [hfront]
          exact hfound hfirst

/-- The first date of a day or of a range is found, in white space and in every mixture of the two
notations. -/
lemma firstDate?_of_writesRange (hd : d.HasPlainYear) (h : d.WritesRange s) :
    firstDate? (String.ofList s) = some d := by
  rw [firstDate?, String.toList_ofList]
  cases h with
  | @day w a u hw ha hu =>
    have hread := ha.ofChars_eq hd
    have htrim : Text.trim (w ++ a ++ u) = a := by
      rw [Text.trim_surrounded hw hu, ha.writes.trim_eq]
    have hbound : firstBound a = a := by
      have hwhole : (Date.ofTrimmed? (Text.trim a)).isSome = true := by
        rw [Date.ofChars_eq_ok_iff.1 hread, Option.isSome_some]
      rw [firstBound, splitOnce_eq_none_iff.2 (Date.separator_not_infix hread)]
      exact if_pos hwhole
    rw [htrim, hbound, Text.takeWhile_of_not_mem (Date.comma_not_mem hread), hread]
    rfl
  | @range w a before after b u last hw ha hbefore hafter hlast hb hu =>
    rw [Text.trim_surrounded hw hu, trim_range hd ha before after hlast hb,
      firstBound_of_range hd ha hbefore hafter hlast hb]
    rfl

end DateRange

/-- The chronological order: by year, then by month, then by day of the month. -/
lemma Date.order_eq (d e : Date) : d.order e = (compare d.year e.year).then
    ((compare d.month e.month).then (compare d.day e.day)) := by
  obtain ⟨-, hmonth, hday⟩ := d.isDay
  obtain ⟨-, hmonth', hday'⟩ := e.isDay
  have hmost := daysInMonth_le d.year d.month
  have hmost' := daysInMonth_le e.year e.month
  rw [order, place, place]
  rcases lt_trichotomy d.year e.year with hyear | hyear | hyear
  · rw [Int.compare_eq_lt.2 hyear, Int.compare_eq_lt.2 (by omega)]
    rfl
  · rw [hyear, Int.compare_eq_eq.2 rfl]
    rcases lt_trichotomy d.month e.month with hmon | hmon | hmon
    · rw [Nat.compare_eq_lt.2 hmon, Int.compare_eq_lt.2 (by omega)]
      rfl
    · rw [hmon, Nat.compare_eq_eq.2 rfl]
      rcases lt_trichotomy d.day e.day with hd | hd | hd
      · rw [Nat.compare_eq_lt.2 hd, Int.compare_eq_lt.2 (by omega)]
        rfl
      · rw [hd, Nat.compare_eq_eq.2 rfl, Int.compare_eq_eq.2 rfl]
        rfl
      · rw [Nat.compare_eq_gt.2 hd, Int.compare_eq_gt.2 (by omega)]
        rfl
    · rw [Nat.compare_eq_gt.2 hmon, Int.compare_eq_gt.2 (by omega)]
      rfl
  · rw [Int.compare_eq_gt.2 hyear, Int.compare_eq_gt.2 (by omega)]
    rfl

/-- Days and ranges are ordered by their first days, in whatever white space and notations they are
written.  Two texts of days with years of four digits, each of a day or of a range that starts with
it, with the hyphen between the days in spaces or bare, compare as these days do in time, and a text
without a first date comes before each. -/
theorem ranges_in_order_of_first_days (d e : Date) (hd : d.HasPlainYear) (he : e.HasPlainYear)
    (v w : List Char) (hv : d.WritesRange v) (hw : e.WritesRange w) :
    DateRange.compareTexts (String.ofList v) (String.ofList w) = (compare d.year e.year).then
        ((compare d.month e.month).then (compare d.day e.day))
      ∧ ∀ text : String, DateRange.firstDate? text = none →
        DateRange.compareTexts text (String.ofList v) = .lt := by
  have hfirst := DateRange.firstDate?_of_writesRange hd hv
  refine ⟨?_, fun text hnone => (DateRange.compareTexts_of_none hfirst hnone).2⟩
  rw [DateRange.compareTexts_of_dates hfirst (DateRange.firstDate?_of_writesRange he hw),
    Date.order_eq]

/-- A range with a bare hyphen between days with hyphens, and one with a bare hyphen between two
notations: the second starts earlier. -/
theorem bare_hyphen_in_two_mixtures :
    let jan : Date := ⟨2024, 1, 5, by decide⟩
    let dec : Date := ⟨2023, 12, 31, by decide⟩
    let v := " 2024-01-05-2024-02-01".toList
    let w := "31.12.2023-2024-02-01\t".toList
    jan.WritesRange v ∧ dec.WritesRange w
      ∧ DateRange.compareTexts (String.ofList v) (String.ofList w) = .gt
      ∧ DateRange.firstDate? "tbd" = none
      ∧ DateRange.compareTexts "tbd" (String.ofList v) = .lt := by
  intro jan dec v w
  let feb : Date := ⟨2024, 2, 1, by decide⟩
  have hfeb : feb.HasPlainYear := ⟨by decide, by decide⟩
  have hv : jan.WritesRange v := by
    have htext : v = [' '] ++ (jan.chars ++ [] ++ '-' :: ([] ++ feb.chars)) ++ [] := by decide
    rw [htext]
    exact .range (by decide) (.inl rfl) (by decide) (by decide) hfeb (.inl rfl) (by decide)
  have hw : dec.WritesRange w := by
    have htext : w = [] ++ (dec.pointedChars ++ [] ++ '-' :: ([] ++ feb.chars)) ++ ['\t'] := by
      decide
    rw [htext]
    exact .range (by decide) (.inr rfl) (by decide) (by decide) hfeb (.inl rfl) (by decide)
  have hnone : DateRange.firstDate? "tbd" = none := by decide +kernel
  obtain ⟨horder, hlast⟩ := ranges_in_order_of_first_days jan dec ⟨by decide, by decide⟩
    ⟨by decide, by decide⟩ v w hv hw
  exact ⟨hv, hw, horder, hnone, hlast _ hnone⟩

end GridRules
