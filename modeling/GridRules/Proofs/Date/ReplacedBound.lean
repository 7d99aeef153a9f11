import GridRules.Proofs.Date.DayNotations
import GridRules.Proofs.Date.EntryBounds
import GridRules.Proofs.Date.FilterRuns

/-!
# Bounds in another notation

A bound of a range text stands at an end of the text, at a comma or at the separator of bounds.
Another text of the same day in its place leaves the ranges that can be read as they are
(`DateRange.readable_of_replaced_bound`): the text of a date holds no comma and no separator, so it
does not move the cuts, and where a text of one day is read, a text of another notation is read as
the same day.  So no filter tells the notations of a day apart.
-/

namespace GridRules

namespace DateRange

open Text (splitOnce)

/-- A bound may stand after the text: the text is empty, or a comma or a separator of bounds
ends it. -/
def BoundMayFollow (before : List Char) : Prop :=
  before = [] ∨ [','] <:+ before ∨ boundSeparator <:+ before

/-- A bound may stand before the text: the text is empty, or it starts with a comma or a separator
of bounds. -/
def BoundMayPrecede (after : List Char) : Prop :=
  after = [] ∨ [','] <+: after ∨ boundSeparator <+: after

variable {b b' before after s t : List Char} {d : Date} {range : DateRange}

/-! ## Inside of an entry -/

/-- What stands before a separator of bounds is cut off there when no separator starts in it. -/
lemma splitOnce_after_bound (h : ¬ boundSeparator <:+: b ++ [' ']) (rest : List Char) :
    splitOnce boundSeparator (b ++ boundSeparator ++ rest) = some (b, rest) := by
  induction b with
  | nil => exact Text.splitOnce_here (List.prefix_append boundSeparator rest)
  | cons c b ih =>
    have hno : ¬ boundSeparator <+: c :: (b ++ boundSeparator ++ rest) := by
      intro hp
      cases b with
      | nil =>
        -- the second character of the separator would be a space
        exact absurd (List.cons_prefix_cons.1 (List.cons_prefix_cons.1 hp).2).1 (by decide)
      | cons x b =>
        have hfront : c :: (x :: b ++ [' '])
            <+: c :: (x :: b ++ boundSeparator ++ rest) := by
          exact ⟨'-' :: ' ' :: rest, by simp [boundSeparator]⟩
        refine h (List.prefix_of_prefix_length_le hp hfront ?_).isInfix
        simp [boundSeparator]
    rw [List.cons_append, List.cons_append, Text.splitOnce_later hno,
      ih fun hsep => h (List.infix_cons_iff.2 (.inr hsep))]
    rfl

lemma splitOnce_after_date (h : Date.ofChars b = .ok d) (rest : List Char) :
    splitOnce boundSeparator (b ++ boundSeparator ++ rest) = some (b, rest) := by
  have hspace : Date.ofChars (b ++ [' ']) = .ok d := by rwa [Date.ofChars_concat (by decide)]
  exact splitOnce_after_bound (Date.separator_not_infix hspace) rest

/-- After the first cut of a text that ends with a separator nothing is left, unless another
separator overlaps with the one of the cut. -/
lemma eq_nil_of_cut {head tail : List Char}
    (h : s ++ boundSeparator = head ++ boundSeparator ++ tail)
    (htail : ¬ boundSeparator <:+: ' ' :: tail) : tail = [] := by
  have hsep : boundSeparator <:+ s ++ boundSeparator := List.suffix_append _ _
  have hspace : ' ' :: tail <:+ s ++ boundSeparator :=
    ⟨head ++ [' ', '-'], by rw [h]; simp [boundSeparator]⟩
  rcases Nat.lt_or_ge (' ' :: tail).length boundSeparator.length with hshort | hlong
  · have hlast : ' ' :: tail <:+ boundSeparator :=
      List.suffix_of_suffix_length_le hspace hsep hshort.le
    -- a proper end of the separator that starts with a space is this space
    rcases List.eq_nil_or_concat' tail with rfl | ⟨front, c, rfl⟩
    · rfl
    · obtain rfl : front = [] := by
        rw [List.length_cons, List.length_append, List.length_singleton] at hshort
        exact List.eq_nil_of_length_eq_zero (Nat.lt_one_iff.1 (Nat.lt_of_add_lt_add_right hshort))
      have hend : [' ', c] <:+ ['-', ' '] :=
        List.suffix_of_suffix_length_le hlast ⟨[' '], rfl⟩ le_rfl
      exact absurd (List.cons.inj (hend.eq_of_length rfl)).1 (by decide)
  · exact absurd (List.suffix_of_suffix_length_le hsep hspace hlong).isInfix htail

/-- The text of a day alone is the range of this day. -/
lemma ofEntry_day_iff (hb : Date.ofChars b = .ok d) :
    ofEntry b = .ok range ↔ range.first = d ∧ range.last = d := by
  have hsep := Date.separator_not_infix hb
  rw [ofEntry_eq_ok_iff, splitOnce_eq_none_iff.2 hsep, hb]
  simp only [hsep, not_false_eq_true, true_and, Except.ok.injEq, reduceCtorEq, false_and,
    exists_false, or_false]
  constructor
  · rintro ⟨rfl, hlast⟩
    exact ⟨rfl, hlast⟩
  · rintro ⟨rfl, hlast⟩
    exact ⟨rfl, hlast⟩

/-- Of the first bound of an entry only its day matters. -/
lemma ofEntry_first_iff (hb : Date.ofChars b = .ok d) (rest : List Char) :
    ofEntry (b ++ boundSeparator ++ rest) = .ok range
      ↔ ¬ boundSeparator <:+: rest ∧ range.first = d ∧ Date.ofChars rest = .ok range.last := by
  rw [ofEntry_eq_ok_iff]
  constructor
  · rintro (⟨hsep, -⟩ | ⟨first, last, hcut, hlast, hfirst, hday⟩)
    · exact absurd ⟨b, rest, rfl⟩ hsep
    · rw [splitOnce_after_date hb] at hcut
      obtain ⟨rfl, rfl⟩ := Prod.mk.inj (Option.some.inj hcut)
      rw [hb] at hfirst
      exact ⟨hlast, (Except.ok.inj hfirst).symm, hday⟩
  · rintro ⟨hlast, rfl, hday⟩
    exact .inr ⟨b, rest, splitOnce_after_date hb rest, hlast, hb, hday⟩

/-- Of the last bound of an entry only its day matters, and no bound follows it. -/
lemma ofEntry_last_iff (hb : Date.ofChars b = .ok d) (front : List Char)
    (hafter : after = [] ∨ boundSeparator <+: after) :
    ofEntry (front ++ boundSeparator ++ b ++ after) = .ok range ↔ after = [] ∧ range.last = d
      ∧ ∃ head, splitOnce boundSeparator (front ++ boundSeparator) = some (head, [])
        ∧ Date.ofChars head = .ok range.first := by
  rw [ofEntry_eq_ok_iff]
  constructor
  · rintro (⟨hsep, -⟩ | ⟨first, last, hcut, hlast, hfirst, hday⟩)
    · exact absurd ⟨front, b ++ after, by simp⟩ hsep
    · have hsep : boundSeparator <:+: front ++ boundSeparator := ⟨front, [], by simp⟩
      obtain ⟨⟨head, tail⟩, hcut'⟩ :=
        Option.ne_none_iff_exists'.1 (mt splitOnce_eq_none_iff.1 (not_not_intro hsep))
      rw [List.append_assoc, Text.splitOnce_append hcut'] at hcut
      obtain ⟨rfl, rfl⟩ := Prod.mk.inj (Option.some.inj hcut)
      obtain rfl : after = [] := by
        rcases hafter with hnil | ⟨rest, rfl⟩
        · exact hnil
        · exact absurd ⟨tail ++ b, rest, by simp⟩ hlast
      rw [List.append_nil] at hday
      -- with a space in front the last bound is still a date, and holds no separator
      obtain rfl : tail = [] := by
        refine eq_nil_of_cut (Text.eq_of_splitOnce hcut') fun hsep => ?_
        have hspace : Date.ofChars (' ' :: (tail ++ b)) = .ok range.last := by
          rwa [Date.ofChars_cons (by decide)]
        exact Date.separator_not_infix hspace (hsep.trans ⟨[], b, rfl⟩)
      rw [List.nil_append, hb] at hday
      exact ⟨rfl, (Except.ok.inj hday).symm, head, hcut', hfirst⟩
  · rintro ⟨rfl, rfl, head, hcut, hfirst⟩
    refine .inr ⟨head, b, ?_, Date.separator_not_infix hb, hfirst, hb⟩
    rw [List.append_nil, Text.splitOnce_append hcut, List.nil_append]

/-- An entry is read as the same range when a text of the same day replaces a bound. -/
lemma ofEntry_of_replaced (hb : Date.ofChars b = .ok d) (hb' : Date.ofChars b' = .ok d)
    (hbefore : before = [] ∨ boundSeparator <:+ before)
    (hafter : after = [] ∨ boundSeparator <+: after) :
    ofEntry (before ++ b ++ after) = .ok range ↔ ofEntry (before ++ b' ++ after) = .ok range := by
  rcases hbefore with rfl | ⟨front, rfl⟩
  · rcases hafter with rfl | ⟨rest, rfl⟩
    · simp only [List.nil_append, List.append_nil, ofEntry_day_iff hb, ofEntry_day_iff hb']
    · simp only [List.nil_append, ← List.append_assoc, ofEntry_first_iff hb,
        ofEntry_first_iff hb']
  · rw [ofEntry_last_iff hb front hafter, ofEntry_last_iff hb' front hafter]

/-! ## Between commas -/

/-- The ranges of a text without the entries that cannot be read. -/
def rangesOf (s : List Char) : List DateRange := successes ((entries s).map ofEntry)

lemma readable_string (s : List Char) : readable (.string (String.ofList s)) = rangesOf s := by
  rw [readable, results, String.toList_ofList, rangesOf]

lemma rangesOf_append (s t : List Char) :
    rangesOf (s ++ ',' :: t) = rangesOf s ++ rangesOf t := by
  rw [rangesOf, entries_append, List.map_append, successes_append]
  rfl

lemma rangesOf_entry (hcomma : ',' ∉ s) (hblank : Text.isBlank s = false) :
    rangesOf s = (ofEntry s).toOption.toList := by
  rw [rangesOf, entries, List.splitOn_eq_singleton hcomma,
    List.filter_cons_of_pos (by simp [hblank]), List.filter_nil, List.map_cons, List.map_nil]
  cases ofEntry s <;> rfl

lemma isBlank_around_date (h : Date.ofChars b = .ok d) (before after : List Char) :
    Text.isBlank (before ++ b ++ after) = false := by
  rw [Bool.eq_false_iff]
  intro hblank
  have hb : Text.isBlank b = true := by
    simp only [Text.isBlank, List.all_append, Bool.and_eq_true] at hblank ⊢
    exact hblank.1.2
  rw [Date.ofChars_eq_ok_iff, Text.trim_eq_nil_iff.2 hb] at h
  cases h

/-- The ranges of one entry stay when a text of the same day replaces a bound. -/
lemma rangesOf_of_replaced_entry (hb : Date.ofChars b = .ok d) (hb' : Date.ofChars b' = .ok d)
    (hbefore : before = [] ∨ boundSeparator <:+ before)
    (hafter : after = [] ∨ boundSeparator <+: after) (hfree : ',' ∉ before ∧ ',' ∉ after) :
    rangesOf (before ++ b ++ after) = rangesOf (before ++ b' ++ after) := by
  have hcomma : ∀ {t : List Char}, Date.ofChars t = .ok d → ',' ∉ before ++ t ++ after :=
    fun ht => by simp [hfree, Date.comma_not_mem ht]
  rw [rangesOf_entry (hcomma hb) (isBlank_around_date hb _ _),
    rangesOf_entry (hcomma hb') (isBlank_around_date hb' _ _)]
  have hsame : ∀ range, ofEntry (before ++ b ++ after) = .ok range
      ↔ ofEntry (before ++ b' ++ after) = .ok range := fun _ =>
    ofEntry_of_replaced hb hb' hbefore hafter
  cases hread : ofEntry (before ++ b ++ after) with
  | ok range => rw [(hsame range).1 hread]
  | error e =>
    cases hread' : ofEntry (before ++ b' ++ after) with
    | ok range =>
      rw [(hsame range).2 hread'] at hread
      cases hread
    | error e' => rfl

/-- The part of a text after its last comma, and what stands before this comma. -/
lemma exists_last_cut (h : ',' ∈ s) : ∃ front last, s = front ++ ',' :: last ∧ ',' ∉ last := by
  obtain ⟨t, ht⟩ := Text.exists_cut (List.mem_reverse.2 h)
  have hno := Text.not_mem_takeWhile s.reverse ','
  generalize s.reverse.takeWhile (· ≠ ',') = last at ht hno
  refine ⟨t.reverse, last.reverse, ?_, mt List.mem_reverse.1 hno⟩
  rw [← List.reverse_reverse s, ht]
  simp

/-- After its last comma a text ends as it does on the whole. -/
lemma BoundMayFollow.last_part {front last : List Char} (h : BoundMayFollow (front ++ ',' :: last))
    (hfree : ',' ∉ last) : last = [] ∨ boundSeparator <:+ last := by
  have hlast : last <:+ front ++ ',' :: last := ⟨front ++ [','], by simp⟩
  have hcomma : ',' :: last <:+ front ++ ',' :: last := List.suffix_append _ _
  rcases h with hnil | hend | hsep
  · simp at hnil
  · rcases List.suffix_or_suffix_of_suffix hend hlast with hin | hin
    · exact absurd (hin.subset List.mem_cons_self) hfree
    · rcases List.suffix_cons_iff.1 hin with heq | hnil
      · exact absurd (heq ▸ List.mem_cons_self) hfree
      · exact .inl (List.suffix_nil.1 hnil)
  · rcases List.suffix_or_suffix_of_suffix hsep hcomma with hin | hin
    · rcases List.suffix_cons_iff.1 hin with heq | hin
      · exact absurd (heq ▸ List.mem_cons_self : ',' ∈ boundSeparator) (by decide)
      · exact .inr hin
    · exact absurd (hin.subset List.mem_cons_self) (by decide)

/-- Up to its first comma a text starts as it does on the whole. -/
lemma BoundMayPrecede.first_part {first rest : List Char}
    (h : BoundMayPrecede (first ++ ',' :: rest)) (hfree : ',' ∉ first) :
    first = [] ∨ boundSeparator <+: first := by
  have hfirst : first <+: first ++ ',' :: rest := List.prefix_append _ _
  have hcomma : first ++ [','] <+: first ++ ',' :: rest := ⟨rest, by simp⟩
  rcases h with hnil | hend | hsep
  · simp at hnil
  · rcases List.prefix_or_prefix_of_prefix hend hfirst with hin | hin
    · exact absurd (hin.subset List.mem_cons_self) hfree
    · rcases List.prefix_cons_iff.1 hin with hnil | ⟨t, ht, -⟩
      · exact .inl hnil
      · exact absurd (ht ▸ List.mem_cons_self) hfree
  · rcases List.prefix_or_prefix_of_prefix hsep hcomma with hin | hin
    · rcases List.prefix_concat_iff.1 hin with heq | hin
      · exact absurd (heq ▸ List.mem_append_right _ List.mem_cons_self : ',' ∈ boundSeparator)
          (by decide)
      · exact .inr hin
    · exact absurd (hin.subset (List.mem_append_right _ List.mem_cons_self)) (by decide)

/-- In a text without a comma before the bound, what stands after the next comma is read by
itself. -/
lemma rangesOf_of_replaced_first (hb : Date.ofChars b = .ok d) (hb' : Date.ofChars b' = .ok d)
    (hbefore : before = [] ∨ boundSeparator <:+ before) (hafter : BoundMayPrecede after)
    (hfree : ',' ∉ before) :
    rangesOf (before ++ b ++ after) = rangesOf (before ++ b' ++ after) := by
  by_cases hcomma : ',' ∈ after
  · obtain ⟨rest, hcut⟩ := Text.exists_cut hcomma
    have hno := Text.not_mem_takeWhile after ','
    generalize after.takeWhile (· ≠ ',') = first at hcut hno
    subst hcut
    rw [← List.append_assoc, ← List.append_assoc, rangesOf_append, rangesOf_append,
      rangesOf_of_replaced_entry hb hb' hbefore (hafter.first_part hno) ⟨hfree, hno⟩]
  · have hwhole : after = [] ∨ boundSeparator <+: after := by
      rcases hafter with hnil | hend | hsep
      · exact .inl hnil
      · exact absurd (hend.subset List.mem_cons_self) hcomma
      · exact .inr hsep
    exact rangesOf_of_replaced_entry hb hb' hbefore hwhole ⟨hfree, hcomma⟩

/-- The ranges that can be read in a text stay when a text of the same day replaces a bound. -/
lemma rangesOf_of_replaced_bound (hb : Date.ofChars b = .ok d) (hb' : Date.ofChars b' = .ok d)
    (hbefore : BoundMayFollow before) (hafter : BoundMayPrecede after) :
    rangesOf (before ++ b ++ after) = rangesOf (before ++ b' ++ after) := by
  by_cases hcomma : ',' ∈ before
  · obtain ⟨front, last, rfl, hno⟩ := exists_last_cut hcomma
    have hlast := rangesOf_of_replaced_first hb hb' (hbefore.last_part hno) hafter hno
    simp only [List.append_assoc, List.cons_append] at hlast ⊢
    rw [rangesOf_append, rangesOf_append, hlast]
  · have hwhole : before = [] ∨ boundSeparator <:+ before := by
      rcases hbefore with hnil | hend | hsep
      · exact .inl hnil
      · exact absurd (hend.subset List.mem_cons_self) hcomma
      · exact .inr hsep
    exact rangesOf_of_replaced_first hb hb' hwhole hafter hcomma

end DateRange

/-- A filter tells two cells apart by the ranges that can be read in them. -/
lemma DateFilter.passes_of_readable {f : DateFilter} {row row' : Row} {v v' : Value}
    (hrow : row.get? f.field = some v) (hrow' : row'.get? f.field = some v')
    (h : DateRange.readable v = DateRange.readable v') : f.passes row = f.passes row' := by
  cases hd : f.date with
  | none =>
    unfold DateFilter.passes
    rw [hd]
  | some d => rw [passes_of_get? hd hrow, passes_of_get? hd hrow', h]

/-- All notations of a day are the same date.  A text that writes a day with a year of four digits,
with any time of the day, fraction of a second, offset and white space, is read as this day.  As the
date of a filter, set by hand or restored from a model, it sets this day; and in place of a bound of
a range text another such text lets the same rows pass any filter. -/
theorem day_notations_are_one_date (d : Date) (hd : d.HasPlainYear) (b b' : List Char)
    (hb : d.IsWritten b) (hb' : d.IsWritten b') :
    Date.ofText (String.ofList b) = .ok d
      ∧ (∀ f : DateFilter, f.setDate (some (String.ofList b)) = .ok { f with date := some d })
      ∧ (∀ (f : DateFilter) (type : String),
        f.restore (some ⟨String.ofList b, type⟩) = .ok { f with date := some d })
      ∧ ∀ before after, DateRange.BoundMayFollow before → DateRange.BoundMayPrecede after →
        ∀ (f : DateFilter) (row row' : Row),
          row.get? f.field = some (.string (String.ofList (before ++ b ++ after))) →
          row'.get? f.field = some (.string (String.ofList (before ++ b' ++ after))) →
          f.passes row = f.passes row' := by
  have hread := Date.ofChars_of_isWritten hd hb
  have htext : Date.ofText (String.ofList b) = .ok d := by
    rw [Date.ofText, String.toList_ofList, hread]
  have hsets : FilterCall.Sets (.setDate (some (String.ofList b))) (some d) := .date htext
  refine ⟨htext, FilterCall.outcome_of_sets hsets, fun f type => ?_, ?_⟩
  · have hmodel : FilterCall.Sets (.restore (some ⟨String.ofList b, type⟩)) (some d) :=
      .model hsets
    exact FilterCall.outcome_of_sets hmodel f
  · intro before after hbefore hafter f row row' hrow hrow'
    refine DateFilter.passes_of_readable hrow hrow' ?_
    rw [DateRange.readable_string, DateRange.readable_string]
    exact DateRange.rangesOf_of_replaced_bound hread (Date.ofChars_of_isWritten hd hb') hbefore
      hafter

/-- A leap day at the end of a range: with points, and with a time whose offset moves it to the next
day in Greenwich. -/
theorem leap_day_in_two_notations :
    let leap : Date := ⟨2024, 2, 29, by decide⟩
    let f : DateFilter := ⟨"runtime", none, some leap⟩
    let row (bound : List Char) := Row.empty.insert "runtime"
      (.string (String.ofList ("soon,2024-01-05 - ".toList ++ bound ++ ", later".toList)))
    let timed := " 2024-02-29T23:30:00.5-01:00".toList
    let pointed := "29.02.2024\t".toList
    Date.ofText (String.ofList timed) = .ok leap ∧ f.passes (row pointed) = true
      ∧ f.passes (row timed) = f.passes (row pointed) := by
  intro leap f row timed pointed
  have hlocal : leap.IsWritten timed := ⟨[' '], _, [], by decide, by decide,
    .offset ⟨23, 30, 0⟩ (.digits (by decide : Text.Digits ['5']) (by decide))
      (.signed (.inr rfl) 1 0), by decide⟩
  have hpointed : leap.IsWritten pointed :=
    ⟨[], _, ['\t'], by decide, by decide, .pointed, by decide⟩
  obtain ⟨htext, -, -, hpasses⟩ :=
    day_notations_are_one_date leap ⟨by decide, by decide⟩ timed pointed hlocal hpointed
  exact ⟨htext, by decide +kernel, hpasses _ _ (.inr (.inr ⟨"soon,2024-01-05".toList, rfl⟩))
    (.inr (.inl ⟨" later".toList, rfl⟩)) f _ _ rfl rfl⟩

end GridRules
