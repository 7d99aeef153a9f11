import GridRules.Proofs.Date.RangeOrder
import GridRules.Proofs.Expression.Formula
import GridRules.Proofs.Value.EqualityAndOrder

/-!
# Days as texts in rules

A rule that compares two days as texts compares them in time.  The text of a day has its year first
and its day of the month last, each in a fixed width with zeros in front, so the first character in
which two such texts differ is in the first part in which the two days differ
(`Date.chars_lt_chars`).  Digits of one length are in the order of their numbers
(`Text.digits_lt_digits`).

Therefore a rule that looks for a day between two others, all of them texts of a row, is true
exactly where a filter on that day passes the range of the two.
-/

namespace GridRules

/-! ## Texts of fixed width -/

namespace Text

variable {a b s t ds es : List Char}

/-- Fronts of one length decide the order where they differ. -/
lemma append_lt_append (hlength : a.length = b.length) (h : a < b) (s t : List Char) :
    a ++ s < b ++ t := by
  induction a generalizing b with
  | nil =>
    obtain rfl : b = [] := List.length_eq_zero_iff.1 hlength.symm
    exact absurd h (List.not_lt_nil _)
  | cons c a ih =>
    cases b with
    | nil => cases hlength
    | cons d b =>
      rw [List.cons_append, List.cons_append, List.cons_lt_cons_iff]
      rcases List.cons_lt_cons_iff.1 h with hlt | ⟨hcd, hlt⟩
      · exact .inl hlt
      · exact .inr ⟨hcd, ih (by simpa using hlength) hlt⟩

/-- Lists of digits of one length are in the order of their numbers. -/
lemma digits_lt_digits (hds : Digits ds) (hes : Digits es) (hlength : ds.length = es.length)
    (h : ofDigits ds < ofDigits es) : ds < es := by
  induction ds generalizing es with
  | nil =>
    obtain rfl : es = [] := List.length_eq_zero_iff.1 hlength.symm
    exact absurd h (Nat.lt_irrefl _)
  | cons c ds ih =>
    cases es with
    | nil => cases hlength
    | cons d es =>
      obtain ⟨hc, hds⟩ := List.forall_mem_cons.1 hds
      obtain ⟨hd, hes⟩ := List.forall_mem_cons.1 hes
      have hrest : ds.length = es.length := by simpa using hlength
      have hlow := ofDigits_lt hds
      have hsplit : ∀ (x : Char) (xs : List Char), xs.length = es.length →
          ofDigits (x :: xs) = 10 ^ es.length * (x.toNat - '0'.toNat) + ofDigits xs := by
        intro x xs hxs
        rw [← List.singleton_append, ofDigits_append, ofDigits_singleton, hxs, Nat.pow_eq]
      rw [hsplit c ds hrest, hsplit d es rfl] at h
      rw [hrest] at hlow
      rw [List.cons_lt_cons_iff]
      rcases Nat.lt_trichotomy (c.toNat - '0'.toNat) (d.toNat - '0'.toNat) with hcd | hcd | hcd
      · -- the first digits differ
        have hlt : c.toNat < d.toNat := by omega
        exact .inl hlt
      · have heq : c = d := by
          rw [← digitChar_of_isDigit hc, hcd, digitChar_of_isDigit hd]
        rw [hcd] at h
        exact .inr ⟨heq, ih hds hes hrest (Nat.lt_of_add_lt_add_left h)⟩
      · -- the first list would denote the greater number
        have hhigh := ofDigits_lt hes
        have hstep := Nat.mul_le_mul_left (10 ^ es.length) (Nat.succ_le_of_lt hcd)
        rw [Nat.mul_succ] at hstep
        omega

/-- Numbers padded to one width are in their own order. -/
lemma padded_lt_padded {width n m : ℕ} (hwidth : 0 < width) (h : n < m) (hm : m < 10 ^ width) :
    padded width n < padded width m := by
  have hlength : (padded width n).length = (padded width m).length :=
    (length_padded hwidth (h.trans hm)).trans (length_padded hwidth hm).symm
  refine digits_lt_digits (fun _ => isDigit_of_mem_padded) (fun _ => isDigit_of_mem_padded)
    hlength ?_
  rwa [ofDigits_padded, ofDigits_padded]

end Text

/-! ## Texts of days -/

namespace Date

variable {d e : Date}

lemma chars_eq (hd : d.HasPlainYear) : d.chars = Text.padded 4 d.year.toNat
    ++ ('-' :: (Text.padded 2 d.month ++ '-' :: Text.padded 2 d.day)) := by
  rw [chars, Notation.yearText_eq hd, List.append_assoc, List.cons_append]

/-- The text of an earlier day comes before that of a later one. -/
lemma chars_lt_chars (hd : d.HasPlainYear) (he : e.HasPlainYear) (h : d.order e = .lt) :
    d.chars < e.chars := by
  have hyears : ∀ {x y : Date}, x.HasPlainYear → y.HasPlainYear →
      (Text.padded 4 x.year.toNat).length = (Text.padded 4 y.year.toNat).length := by
    intro x y hx hy
    rw [Text.length_padded (by decide) (Notation.toNat_year_lt hx),
      Text.length_padded (by decide) (Notation.toNat_year_lt hy)]
  have hmonths : (Text.padded 2 d.month).length = (Text.padded 2 e.month).length := by
    rw [Text.length_padded (by decide) (Notation.month_lt d),
      Text.length_padded (by decide) (Notation.month_lt e)]
  rw [order_eq, Ordering.then_eq_lt, Ordering.then_eq_lt, Int.compare_eq_lt, Int.compare_eq_eq,
    Nat.compare_eq_lt, Nat.compare_eq_eq, Nat.compare_eq_lt] at h
  rw [chars_eq hd, chars_eq he]
  rcases h with hyear | ⟨hyear, hmonth | ⟨hmonth, hday⟩⟩
  · have hlt : d.year.toNat < e.year.toNat := by
      have := hd.1
      omega
    exact Text.append_lt_append (hyears hd he)
      (Text.padded_lt_padded (by decide) hlt (Notation.toNat_year_lt he)) _ _
  · rw [hyear]
    refine List.append_left_lt (List.cons_lt_cons_iff.2 (.inr ⟨rfl, ?_⟩))
    exact Text.append_lt_append hmonths
      (Text.padded_lt_padded (by decide) hmonth (Notation.month_lt e)) _ _
  · rw [hyear, hmonth]
    refine List.append_left_lt (List.cons_lt_cons_iff.2 (.inr ⟨rfl, List.append_left_lt ?_⟩))
    exact List.cons_lt_cons_iff.2 (.inr ⟨rfl,
      Text.padded_lt_padded (by decide) hday (Notation.day_lt e)⟩)

/-- Texts of days are compared as the days are in time. -/
lemma compare_toText (hd : d.HasPlainYear) (he : e.HasPlainYear) :
    compare d.toText e.toText = d.order e := by
  have hearlier : ∀ {x y : Date}, x.HasPlainYear → y.HasPlainYear → x.order y = .lt →
      compare x.toText y.toText = .lt := by
    intro x y hx hy h
    have hlt : x.toText < y.toText := by
      rw [String.lt_iff, toText, toText, String.toList_ofList, String.toList_ofList]
      exact chars_lt_chars hx hy h
    exact if_pos hlt
  cases h : d.order e with
  | lt => exact hearlier hd he h
  | eq =>
    obtain rfl : d = e := place_inj (Int.compare_eq_eq.1 h)
    exact Std.ReflCmp.compare_self
  | gt =>
    have hlater : e.order d = .lt := Int.compare_eq_lt.2 (Int.compare_eq_gt.1 h)
    have hswap : compare d.toText e.toText = (compare e.toText d.toText).swap :=
      Std.OrientedCmp.eq_swap
    rw [hswap, hearlier he hd hlater]
    rfl

lemma compare?_toText (hd : d.HasPlainYear) (he : e.HasPlainYear) :
    Value.compare? (.string d.toText) (.string e.toText) = some (d.order e) :=
  congrArg some (compare_toText hd he)

lemma order_ne_gt_iff : d.order e ≠ .gt ↔ d ≤ e := by
  rw [order, Ne, Int.compare_eq_gt, not_lt]
  exact Iff.rfl

/-- One text of a day is at most another one when the day is not later. -/
lemma atMost_toText (hd : d.HasPlainYear) (he : e.HasPlainYear) :
    Value.atMost (.string d.toText) (.string e.toText) = decide (d ≤ e) := by
  rw [Bool.eq_iff_iff, Value.atMost_iff, compare?_toText hd he, decide_eq_true_iff,
    ← order_ne_gt_iff]
  cases d.order e <;> simp

end Date

/-! ## Rules and filters -/

namespace Expression

/-- The rule that the day of one field lies between those of two others. -/
def between (first day last : String) : Expression :=
  binary .and (binary .atMost (field first) (field day)) (binary .atMost (field day) (field last))

/-- On a row with the three fields the rule gives a truth value. -/
lemma evaluate_between {row : Row} {first day last : String} {v w x : Value}
    (hv : row.get? first = some v) (hw : row.get? day = some w) (hx : row.get? last = some x) :
    (between first day last).evaluate row = .ok (.bool (v.atMost w && w.atMost x)) := by
  have hfield : ∀ {name : String} {v : Value}, row.get? name = some v →
      (field name).operandOn row = .ok (some v) := fun h => congrArg Except.ok h
  have hatMost : ∀ {l r : String} {v w : Value}, row.get? l = some v → row.get? r = some w →
      (binary .atMost (field l) (field r)).operandOn row = .ok (some (.bool (v.atMost w))) :=
    fun hl hr => operandOn_binary rfl (hfield hl) (hfield hr)
  rw [between, evaluate_of_operandOn (operandOn_binary rfl (hatMost hv hw) (hatMost hw hx))]
  cases v.atMost w <;> rfl

end Expression

namespace DateRange

/-- A cell with the texts of two days and a hyphen in spaces between them holds their range. -/
lemma readable_range (first last : Date) :
    readable (.string (first.toText ++ " - " ++ last.toText)) = [⟨first, last⟩] := by
  have htext : first.toText ++ " - " ++ last.toText = listText [⟨first, last⟩] := by
    refine String.toList_inj.1 ?_
    simp [listText, chars, boundSeparator, Date.toText]
  have hread := ofText_listText [⟨first, last⟩]
  rw [← htext] at hread
  exact successes_of_collect hread

end DateRange

/-- Rules on texts of days agree with the date filter.  For days with years of four digits the order
of the texts is that of time, by year, month and day of the month.  Hence on a row with the texts of
three days the rule that the second lies between the others is true exactly when a filter on the
second day passes a row whose cell is the range of the others. -/
theorem texts_of_days_compare_as_filter_does :
    (∀ d e : Date, d.HasPlainYear → e.HasPlainYear →
      Value.compare? (.string d.toText) (.string e.toText) = some ((compare d.year e.year).then
        ((compare d.month e.month).then (compare d.day e.day))))
      ∧ ∀ (first d last : Date) (row cells : Row) (a b c : String) (f : DateFilter),
        first.HasPlainYear → d.HasPlainYear → last.HasPlainYear →
        row.get? a = some (.string first.toText) → row.get? b = some (.string d.toText) →
        row.get? c = some (.string last.toText) → f.date = some d →
        cells.get? f.field = some (.string (first.toText ++ " - " ++ last.toText)) →
        ((Expression.between a b c).evaluate row = .ok (.bool true) ↔ f.passes cells = true) := by
  refine ⟨fun d e hd he => ?_,
    fun first d last row cells a b c f hfirst hd hlast ha hb hc hf hcell => ?_⟩
  · rw [Date.compare?_toText hd he, Date.order_eq]
  · have hrule := Expression.evaluate_between ha hb hc
    rw [Date.atMost_toText hfirst hd, Date.atMost_toText hd hlast] at hrule
    have hfilter := DateFilter.passes_of_get? hf hcell
    rw [DateRange.readable_range, List.any_cons, List.any_nil, Bool.or_false] at hfilter
    rw [hrule, hfilter, DateRange.contains]
    simp

/-- The last day before the year 1000 is before the first day of that year, also as a text, and a
filter on it passes a range that ends there. -/
theorem text_before_year_1000 :
    let eve : Date := ⟨999, 12, 31, by decide⟩
    let day : Date := ⟨1000, 1, 1, by decide⟩
    let row := ((Row.empty.insert "from" (.string "0030-10-02")).insert "on"
      (.string "0999-12-31")).insert "to" (.string "1000-01-01")
    let cells := Row.empty.insert "runtime" (.string "0030-10-02 - 1000-01-01")
    Value.compare? (.string eve.toText) (.string day.toText) = some .lt
      ∧ DateFilter.passes ⟨"runtime", none, some eve⟩ cells = true
      ∧ (Expression.between "from" "on" "to").evaluate row = .ok (.bool true) := by
  intro eve day row cells
  obtain ⟨hcompare, hagree⟩ := texts_of_days_compare_as_filter_does
  have hpasses : DateFilter.passes ⟨"runtime", none, some eve⟩ cells = true := by decide +kernel
  refine ⟨(hcompare eve day ⟨by decide, by decide⟩ ⟨by decide, by decide⟩).trans (by decide),
    hpasses, ?_⟩
  exact (hagree ⟨30, 10, 2, by decide⟩ eve day row cells "from" "on" "to"
    ⟨"runtime", none, some eve⟩ ⟨by decide, by decide⟩ ⟨by decide, by decide⟩
    ⟨by decide, by decide⟩ (by decide +kernel) (by decide +kernel) (by decide +kernel) rfl
    (by decide +kernel)).2 hpasses

end GridRules
