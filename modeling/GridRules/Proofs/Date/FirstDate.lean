import GridRules.Proofs.Date.EntryBounds
import GridRules.Proofs.Grid.SortedRows

/-!
# The first date of a cell

A column that is ordered by dates takes the first date off the display text of a cell, and the
filter reads the ranges of the cell.  The two look for the first date in different ways: the filter
cuts the text at its commas first, while the order looks for a hyphen in spaces first, then for ten
bytes that are a day, then for a bare hyphen.

This module says when they agree (`DateRange.ShowsFirst`).  The text must not start with a blank
entry.  And where the first date is one of a list without a hyphen in spaces, it must hold no
hyphen at all, or the first ten bytes must be that day: a bare hyphen cuts any other date, because
what stands before it is no date.  In every other case the order takes another date or none.
-/

namespace GridRules

/-! ## The day in the first ten bytes -/

lemma takeBytes?_isPrefix {n : Nat} {s front : List Char} (h : takeBytes? n s = some front) :
    front <+: s := by
  induction s generalizing n front with
  | nil =>
    cases n with
    | zero => rw [takeBytes?] at h; exact Option.some.inj h ▸ List.nil_prefix
    | succ n => rw [takeBytes?] at h; cases h
  | cons c s ih =>
    cases n with
    | zero => rw [takeBytes?] at h; exact Option.some.inj h ▸ List.nil_prefix
    | succ n =>
      rw [takeBytes?] at h
      split at h
      · obtain ⟨t, ht, rfl⟩ := Option.map_eq_some_iff.1 h
        exact List.cons_prefix_cons.2 ⟨rfl, ih ht⟩
      · cases h

namespace Notation

/-- A text whose last item is a number ends in a digit. -/
lemma Takes.exists_last_digit {items : Notation} {part : Part} {s : List Char}
    (h : Takes (items ++ [.number part]) s) : ∃ t c, s = t ++ [c] ∧ c.isDigit = true := by
  induction items generalizing s with
  | nil =>
    cases h with
    | cons hused hrest =>
      cases hrest
      cases hused with
      | @number _ w sign ds hw hsign hds hne =>
        refine ⟨w ++ sign ++ ds.dropLast, ds.getLast hne, ?_, hds _ (List.getLast_mem hne)⟩
        rw [List.append_nil, List.append_assoc (w ++ sign), List.dropLast_concat_getLast]
  | cons item items ih =>
    cases h with
    | @cons _ _ used _ hused hrest =>
      obtain ⟨t, c, rfl, hc⟩ := ih hrest
      exact ⟨used ++ t, c, (List.append_assoc _ _ _).symm, hc⟩

lemma date?_day_append {w : List Char} (hw : Text.White w) (s : List Char) :
    date? day (w ++ s) = date? day s := by
  rw [date?, date?, day, moment?, moment?, Item.read?, Item.read?, Text.trimStart_append hw]

end Notation

namespace Date

variable {s : List Char} {d : Date}

lemma takes_day (h : Notation.date? .day s = some d) : Notation.day.Takes s := by
  obtain ⟨m, hm, -⟩ := Option.bind_eq_some_iff.1 h
  exact Notation.takes_of_moment? hm

/-- A day with hyphens is a date without more ado: it ends in a digit, so only white space in front
of it is trimmed away. -/
lemma ofChars_of_day (h : Notation.date? .day s = some d) : ofChars s = .ok d := by
  obtain ⟨w, u, hw, hu, hs⟩ := Text.exists_surrounded s
  have hnil : u = [] := by
    have htakes : Notation.Takes (Notation.day.dropLast ++ [.number .day]) s := takes_day h
    obtain ⟨t, c, hlast, hc⟩ := htakes.exists_last_digit
    by_contra hne
    rw [hs, ← List.dropLast_concat_getLast hne, ← List.append_assoc] at hlast
    have heq : u.getLast hne = c := (List.append_inj' hlast rfl).2 |> List.singleton_inj.1
    have hwhite := hu _ (List.getLast_mem hne)
    rw [heq, Text.isWhite_of_isDigit hc] at hwhite
    cases hwhite
  rw [hs, hnil, List.append_nil, Notation.date?_day_append hw] at h
  rw [ofChars_eq_ok_iff, ofTrimmed?, Notation.all, List.findSome?_cons, h]

end Date

namespace DateRange

open Text (splitOnce)

/-! ## Where the first date stands -/

/-- The first ten bytes of a text write a day with hyphens. -/
def StartsWithDay (s : List Char) (d : Date) : Prop :=
  (takeBytes? 10 s).bind (Notation.date? .day) = some d

instance (s : List Char) (d : Date) : Decidable (StartsWithDay s d) :=
  inferInstanceAs (Decidable (_ = _))

/-- A trimmed text shows its first date to the order of range texts. -/
structure ShowsFirst (s : List Char) (d : Date) : Prop where
  /-- The first entry is not blank. -/
  entry : s.head? ≠ some ','
  /-- A hyphen in spaces ends a bound, or there is one entry, or the first entry holds no hyphen, or
  the day is what the first ten bytes write. -/
  place : boundSeparator <:+: s ∨ ',' ∉ s ∨ '-' ∉ s.takeWhile (· ≠ ',') ∨ StartsWithDay s d

variable {s : List Char} {range : DateRange}

lemma firstBound_isPrefix (s : List Char) : firstBound s <+: s := by
  rw [firstBound]
  split
  · rename_i head tail hcut
    rw [Text.eq_of_splitOnce hcut, List.append_assoc]
    exact List.prefix_append _ _
  · split
    · exact List.prefix_rfl
    · split
      · rename_i front hfront
        exact takeBytes?_isPrefix (Option.filter_eq_some_iff.1 hfront).1
      · exact List.takeWhile_prefix _

/-- The order finds no date in a text that starts with a comma. -/
lemma not_date_before_comma (h : s.head? = some ',') (d : Date) :
    Date.ofChars ((firstBound s).takeWhile (· ≠ ',')) ≠ .ok d := by
  obtain ⟨t, rfl⟩ := List.head?_eq_some_iff.1 h
  have hnil : (firstBound (',' :: t)).takeWhile (· ≠ ',') = [] := by
    rcases List.prefix_cons_iff.1 (firstBound_isPrefix (',' :: t)) with hnil | ⟨r, hr, -⟩
    · rw [hnil, List.takeWhile_nil]
    · rw [hr, List.takeWhile_cons_of_neg (by decide)]
  rw [hnil]
  exact Date.ofChars_nil d

/-- A text without the separator of bounds whose first entry is a date: the order reads that date
when the text has one entry, when the entry has no hyphen, and when the ten bytes say so. -/
lemma firstBound_of_no_separator (hsep : ¬ boundSeparator <:+: s) {first : Date}
    (hfirst : Date.ofChars (s.takeWhile (· ≠ ',')) = .ok first) :
    Date.ofChars ((firstBound s).takeWhile (· ≠ ',')) = .ok first
      ↔ ',' ∉ s ∨ '-' ∉ s.takeWhile (· ≠ ',') ∨ StartsWithDay s first := by
  rw [firstBound, splitOnce_eq_none_iff.2 hsep]
  dsimp only
  split
  · -- the whole text is a date, so it has no comma
    rename_i hwhole
    obtain ⟨d, hd⟩ := Option.isSome_iff_exists.1 hwhole
    have hcomma : ',' ∉ s := Date.comma_not_mem (Date.ofChars_eq_ok_iff.2 hd)
    exact iff_of_true hfirst (.inl hcomma)
  · rename_i hwhole
    have hcomma : ',' ∈ s := by
      by_contra hcomma
      rw [Text.takeWhile_of_not_mem hcomma] at hfirst
      exact hwhole (Option.isSome_iff_exists.2 ⟨_, Date.ofChars_eq_ok_iff.1 hfirst⟩)
    rw [or_iff_right (not_not_intro hcomma)]
    split
    · -- the first ten bytes are a day, which stands before the comma and has a hyphen
      rename_i front hfront
      obtain ⟨htake, hday⟩ := Option.filter_eq_some_iff.1 hfront
      obtain ⟨d, hd⟩ := Option.isSome_iff_exists.1 hday
      have hno : ',' ∉ front := Date.comma_not_mem (Date.ofChars_of_day hd)
      obtain ⟨t, rfl⟩ := takeBytes?_isPrefix htake
      obtain ⟨used, rest, -, hcut⟩ := (Date.takes_day hd).exists_hyphen
      have hhyphen : '-' ∈ (front ++ t).takeWhile (· ≠ ',') := by
        rw [Text.takeWhile_append_of_not_mem hno, hcut]
        simp
      rw [or_iff_right (not_not_intro hhyphen), Text.takeWhile_of_not_mem hno,
        Date.ofChars_of_day hd, StartsWithDay, htake, Option.bind_some, hd, Except.ok.injEq,
        Option.some.injEq]
    · -- a bare hyphen cuts the text, and what stands before it in the first entry is no date
      rename_i hnone
      have hstarts : ¬ StartsWithDay s first := by
        intro h
        obtain ⟨front, htake, hday⟩ := Option.bind_eq_some_iff.1 h
        rw [Option.filter_eq_none_iff] at hnone
        exact hnone front htake (Option.isSome_iff_exists.2 ⟨_, hday⟩)
      rw [or_iff_left hstarts, Text.takeWhile_comm]
      by_cases hhyphen : '-' ∈ s.takeWhile (· ≠ ',')
      · exact iff_of_false (Date.not_date_before_hyphen hfirst hhyphen first)
          (not_not_intro hhyphen)
      · rw [Text.takeWhile_of_not_mem hhyphen]
        exact iff_of_true hfirst hhyphen

/-- The order of range texts reads the first date of a trimmed text whose first entry can be read
exactly when the text shows it. -/
lemma firstBound_eq_ok_iff (h : ofEntry (s.takeWhile (· ≠ ',')) = .ok range) :
    Date.ofChars ((firstBound s).takeWhile (· ≠ ',')) = .ok range.first
      ↔ ShowsFirst s range.first := by
  have hentry : s.head? ≠ some ',' := by
    intro hcomma
    obtain ⟨t, rfl⟩ := List.head?_eq_some_iff.1 hcomma
    rw [List.takeWhile_cons_of_neg (by decide)] at h
    exact Date.ofChars_nil _ (first_of_ofEntry h)
  have hfirst := first_of_ofEntry h
  rw [← takeWhile_beforeBound] at hfirst
  by_cases hsep : boundSeparator <:+: s
  · have hbound : firstBound s = beforeBound s := by
      rw [firstBound, beforeBound]
      cases hcut : splitOnce boundSeparator s with
      | none => exact absurd hsep (splitOnce_eq_none_iff.1 hcut)
      | some cut => rfl
    rw [hbound]
    exact iff_of_true hfirst ⟨hentry, .inl hsep⟩
  · rw [beforeBound_of_no_separator hsep] at hfirst
    rw [firstBound_of_no_separator hsep hfirst]
    exact ⟨fun hplace => ⟨hentry, .inr hplace⟩, fun hshows => hshows.place.resolve_left hsep⟩

/-! ## The first entry of a cell -/

lemma splitOn_eq_cons (s : List Char) :
    ∃ more, s.splitOn ',' = s.takeWhile (· ≠ ',') :: more := by
  by_cases h : ',' ∈ s
  · obtain ⟨t, ht⟩ := Text.exists_cut h
    refine ⟨t.splitOn ',', ?_⟩
    conv_lhs => rw [ht]
    rw [List.splitOn_append_cons_self, List.splitOn_eq_singleton (Text.not_mem_takeWhile s ',')]
    rfl
  · exact ⟨[], by rw [List.splitOn_eq_singleton h, Text.takeWhile_of_not_mem h]⟩

/-- Of a text with entries the first part is no blank one, unless the comma after it stands first in
the trimmed text. -/
lemma isBlank_first_part (hentries : entries s ≠ []) (hcomma : (Text.trim s).head? ≠ some ',') :
    Text.isBlank (s.takeWhile (· ≠ ',')) = false := by
  rw [Bool.eq_false_iff]
  intro hblank
  have hwhite : Text.White (s.takeWhile (· ≠ ',')) := List.all_eq_true.1 hblank
  by_cases hmem : ',' ∈ s
  · obtain ⟨t, ht⟩ := Text.exists_cut hmem
    have htrim : Text.trim s = Text.trim (',' :: t) := by
      conv_lhs => rw [ht, Text.trim_append hwhite]
    rw [htrim] at hcomma
    exact hcomma (Text.head?_trim_cons (by decide) t)
  · rw [Text.takeWhile_of_not_mem hmem] at hblank
    refine hentries ?_
    rw [entries, List.splitOn_eq_singleton hmem, List.filter_cons_of_neg (by simp [hblank]),
      List.filter_nil]

lemma displayChars_string (text : String) : Value.displayChars (.string text) = text.toList := rfl

lemma displayChars_pair (first last : String) : Value.displayChars
    (.array [.string first, .string last]) = [','].intercalate [first.toList, last.toList] := rfl

lemma displayChars_cons_array (items more : List Value) :
    Value.displayChars (.array (.array items :: more))
      = [','].intercalate (Value.displayChars (.array items) :: Value.itemTexts more) := rfl

/-- The display text of a list of pairs starts with its first text and a comma. -/
lemma displayChars_pairs (first last : String) (items : List Value) :
    ∃ t, Value.displayChars (.array (.array [.string first, .string last] :: items))
      = first.toList ++ ',' :: t := by
  rw [displayChars_cons_array, displayChars_pair, List.intercalate_cons_cons,
    List.intercalate_singleton]
  cases Value.itemTexts items with
  | nil => exact ⟨last.toList, by simp⟩
  | cons text texts =>
    refine ⟨last.toList ++ ',' :: [','].intercalate (text :: texts), ?_⟩
    rw [List.intercalate_cons_cons]
    simp

/-- The first entry of a cell that can be read is the front of its display text, up to a comma. -/
lemma ofEntry_front_of_ofValue {v : Value} {rest : List DateRange}
    (h : ofValue v = .ok (range :: rest)) (hcomma : (Text.trim v.displayChars).head? ≠ some ',') :
    ∃ shown, ofEntry (v.displayChars.takeWhile (· ≠ ',')) = .ok shown
      ∧ shown.first = range.first := by
  have hresults := collect_eq_ok_iff.1 h
  cases v with
  | string text =>
    rw [displayChars_string] at hcomma ⊢
    obtain ⟨more, hparts⟩ := splitOn_eq_cons text.toList
    have hblank := isBlank_first_part (s := text.toList)
      (fun hnil => by rw [results, hnil] at hresults; cases hresults) hcomma
    rw [results, entries, hparts, List.filter_cons_of_pos (by simpa using hblank)] at hresults
    exact ⟨range, (List.cons.inj hresults).1, rfl⟩
  | array items =>
    cases items with
    | nil => cases hresults
    | cons pair items =>
      -- the text starts with the first day of the first pair, which holds no comma
      obtain ⟨first, last, rfl, hfirst, -⟩ := ofPair_eq_ok_iff.1 (List.cons.inj hresults).1
      obtain ⟨t, ht⟩ := displayChars_pairs first last items
      rw [ht, Text.takeWhile_append_cons, Text.takeWhile_of_not_mem (Date.comma_not_mem hfirst)]
      exact ⟨⟨range.first, range.first⟩,
        ofEntry_eq_ok_iff.2 (.inl ⟨Date.separator_not_infix hfirst, hfirst, rfl⟩), rfl⟩
  | _ => cases hresults

/-- The date by which a cell is ordered is the first bound that the filter reads exactly when the
display text shows it. -/
lemma firstDate?_eq_some_iff {v : Value} {rest : List DateRange}
    (h : ofValue v = .ok (range :: rest)) : firstDate? v.displayText = some range.first
      ↔ ShowsFirst (Text.trim v.displayChars) range.first := by
  have hdate : firstDate? v.displayText = some range.first
      ↔ Date.ofChars ((firstBound (Text.trim v.displayChars)).takeWhile (· ≠ ','))
        = .ok range.first := by
    rw [firstDate?, Value.displayText, String.toList_ofList]
    cases Date.ofChars ((firstBound (Text.trim v.displayChars)).takeWhile (· ≠ ',')) <;>
      simp [Except.toOption]
  by_cases hcomma : (Text.trim v.displayChars).head? = some ','
  · rw [hdate]
    exact iff_of_false (not_date_before_comma hcomma range.first)
      fun hshows => hshows.entry hcomma
  · obtain ⟨shown, hentry, hfirst⟩ := ofEntry_front_of_ofValue h hcomma
    obtain ⟨w, u, hw, hu, hfront⟩ :=
      Text.takeWhile_eq_surrounded (c := ',') (by decide) v.displayChars
    rw [hfront] at hentry
    rw [hdate, ← hfirst]
    exact firstBound_eq_ok_iff (ofEntry_of_surrounded hw hu hentry)

variable {a b : String} {d e : Date}

lemma compareTexts_of_dates (ha : firstDate? a = some d) (hb : firstDate? b = some e) :
    compareTexts a b = d.order e := by
  rw [compareTexts_eq, firstPlace?, firstPlace?, ha, hb]
  rfl

lemma compareTexts_of_none (ha : firstDate? a = some d) (hb : firstDate? b = none) :
    compareTexts a b = .gt ∧ compareTexts b a = .lt := by
  rw [compareTexts_eq, compareTexts_eq, firstPlace?, firstPlace?, ha, hb]
  exact ⟨rfl, rfl⟩

end DateRange

/-! ## Rows in the order of their first dates -/

namespace Column

open DateRange

/-- A column that is ordered by dates takes the first bound that the filter reads in a cell exactly
when the display text of the cell shows it.  Two rows whose cells show their first dates are ordered
by them in time, and such a row comes after every row whose cell has no first date. -/
theorem order_by_shown_first_dates (v : Value) (range : DateRange) (rest : List DateRange)
    (hv : ofValue v = .ok (range :: rest)) :
    (firstDate? v.displayText = some range.first
        ↔ ShowsFirst (Text.trim v.displayChars) range.first)
      ∧ ∀ (c : Column) (row : Row), c.comparator = some .dateTime → c.cell row = v →
        ShowsFirst (Text.trim v.displayChars) range.first →
        (∀ (other : Row) (range' : DateRange) (rest' : List DateRange),
          ofValue (c.cell other) = .ok (range' :: rest') →
          ShowsFirst (Text.trim (c.cell other).displayChars) range'.first →
          c.compareRows row other = range.first.order range'.first)
          ∧ ∀ other : Row, firstDate? (c.cell other).displayText = none →
            c.compareRows row other = .gt ∧ c.compareRows other row = .lt := by
  refine ⟨firstDate?_eq_some_iff hv, fun c row hc hrow hshows => ?_⟩
  have hfirst : firstDate? (c.cell row).displayText = some range.first := by
    rw [hrow]
    exact (firstDate?_eq_some_iff hv).2 hshows
  refine ⟨fun other range' rest' hother hshows' => ?_, fun other hother => ?_⟩
  · rw [compareRows_of_dateTime hc]
    exact compareTexts_of_dates hfirst ((firstDate?_eq_some_iff hother).2 hshows')
  · rw [compareRows_of_dateTime hc, compareRows_of_dateTime hc]
    exact compareTexts_of_none hfirst hother

/-- A list of days without hyphens, ordered against a range with hyphens and an unreadable cell. -/
theorem order_of_listed_days :
    let c : Column := { Column.new "runtime" with comparator := some .dateTime }
    let row (text : String) := Row.empty.insert "runtime" (.string text)
    let fifth : Date := ⟨2024, 1, 5, by decide⟩
    let seventh : Date := ⟨2024, 1, 7, by decide⟩
    ofValue (.string "5.1.2024, 7.1.2024") = .ok [⟨fifth, fifth⟩, ⟨seventh, seventh⟩]
      ∧ c.compareRows (row "5.1.2024, 7.1.2024") (row " 2024-1-2 - 2024-1-7") = .gt
      ∧ c.compareRows (row "5.1.2024, 7.1.2024") (row "tbd") = .gt := by
  intro c row fifth seventh
  let second : Date := ⟨2024, 1, 2, by decide⟩
  have hlist : ofValue (.string "5.1.2024, 7.1.2024")
      = .ok [⟨fifth, fifth⟩, ⟨seventh, seventh⟩] := by decide +kernel
  have hrange : ofValue (.string " 2024-1-2 - 2024-1-7") = .ok [⟨second, seventh⟩] := by
    decide +kernel
  have hshown : ShowsFirst (Text.trim " 2024-1-2 - 2024-1-7".toList) second :=
    ⟨by decide +kernel, .inl (by decide +kernel)⟩
  obtain ⟨-, horder⟩ := order_by_shown_first_dates _ _ _ hlist
  obtain ⟨hdates, hnone⟩ := horder c (row "5.1.2024, 7.1.2024") rfl rfl
    ⟨by decide +kernel, .inr (.inr (.inl (by decide +kernel)))⟩
  exact ⟨hlist, (hdates (row " 2024-1-2 - 2024-1-7") ⟨second, seventh⟩ [] hrange hshown).trans
    (by decide), (hnone (row "tbd") (by decide +kernel)).1⟩

/-- The order does not read the first date of every cell that the filter reads: a blank entry in
front hides it, and so does a hyphen in the first of several days, be it between the parts of the
day or the sign of its year.  Such a row ties with the unreadable ones, or comes before an earlier
day. -/
theorem first_dates_hidden_from_order :
    let c : Column := { Column.new "runtime" with comparator := some .dateTime }
    let row (text : String) := Row.empty.insert "runtime" (.string text)
    let fifth : Date := ⟨2024, 1, 5, by decide⟩
    let seventh : Date := ⟨2024, 1, 7, by decide⟩
    let ides : Date := ⟨-44, 3, 15, by decide⟩
    let before : Date := ⟨-44, 3, 10, by decide⟩
    (ofValue (.string ", 2024-01-05") = .ok [⟨fifth, fifth⟩]
        ∧ c.compareRows (row ", 2024-01-05") (row "tbd") = .eq)
      ∧ (ofValue (.string "2024-1-5, 2024-1-7") = .ok [⟨fifth, fifth⟩, ⟨seventh, seventh⟩]
        ∧ c.compareRows (row "2024-1-5, 2024-1-7") (row "tbd") = .eq)
      ∧ (ofValue (.string "-0044-03-15, 2024-01-05") = .ok [⟨ides, ides⟩, ⟨fifth, fifth⟩]
        ∧ ofValue (.string "-0044-03-10") = .ok [⟨before, before⟩] ∧ ides.order before = .gt
        ∧ c.compareRows (row "-0044-03-15, 2024-01-05") (row "-0044-03-10") = .lt)
      ∧ ¬ ∀ v range rest, ofValue v = .ok (range :: rest) →
        firstDate? v.displayText = some range.first := by
  intro c row fifth seventh ides before
  have hblank : ofValue (.string ", 2024-01-05") = .ok [⟨fifth, fifth⟩] := by decide +kernel
  refine ⟨⟨hblank, by decide +kernel⟩, ⟨by decide +kernel, by decide +kernel⟩,
    ⟨by decide +kernel, by decide +kernel, by decide, by decide +kernel⟩, fun hall => ?_⟩
  have hfirst := hall (.string ", 2024-01-05") _ _ hblank
  revert hfirst
  decide +kernel

end Column

end GridRules
