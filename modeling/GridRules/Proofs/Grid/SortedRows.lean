import GridRules.Grid.Sort
import GridRules.Proofs.Grid.StableSort
import GridRules.Proofs.Value.SortOrder

/-!
# Sorted rows

The rows of a grid are sorted by the first column of a field, and the result is the stable sort by
the order of that column, turned around for a descending sort (`sortRows_eq_ok_iff`).  Both orders
of a column are total preorders: the order of mixed values, and the order of range texts by their
first dates, in which a text without one is less than all others.
-/

namespace GridRules

open Std (OrientedCmp ReflCmp TransCmp)

/-! ## The order of a column -/

/-- The place in time of the first date of a range text. -/
def DateRange.firstPlace? (text : String) : Option Int := (firstDate? text).map Date.place

lemma DateRange.compareTexts_eq (a b : String) :
    compareTexts a b = compare (firstPlace? a) (firstPlace? b) := by
  unfold compareTexts firstPlace?
  cases firstDate? a <;> cases firstDate? b <;> rfl

instance : TransCmp DateRange.compareTexts :=
  transCmp_of_key DateRange.firstPlace? DateRange.compareTexts_eq

namespace Column

variable {c : Column}

/-- The value by which a row is ordered; a missing field counts as null. -/
def cell (c : Column) (row : Row) : Value := orNull (c.value? row)

lemma compareRows_of_none (h : c.comparator = none) (a b : Row) :
    c.compareRows a b = (c.cell a).sortOrder (c.cell b) := by
  simp only [compareRows, h, cell]

lemma compareRows_of_dateTime (h : c.comparator = some .dateTime) (a b : Row) :
    c.compareRows a b = DateRange.compareTexts (c.cell a).displayText (c.cell b).displayText := by
  simp only [compareRows, h, cell]

instance (c : Column) : TransCmp c.compareRows := by
  cases h : c.comparator with
  | none => exact transCmp_of_key c.cell (compareRows_of_none h)
  | some kind =>
    cases kind
    exact transCmp_of_key (fun row => (c.cell row).displayText) (compareRows_of_dateTime h)

lemma compareRows_congr {a a' b b' : Row} (ha : c.cell a = c.cell a') (hb : c.cell b = c.cell b') :
    c.compareRows a b = c.compareRows a' b' := by
  cases h : c.comparator with
  | none => rw [compareRows_of_none h, compareRows_of_none h, ha, hb]
  | some kind =>
    cases kind
    rw [compareRows_of_dateTime h, compareRows_of_dateTime h, ha, hb]

/-- A row that lacks the field is ordered as if the field were null. -/
lemma compareRows_of_missing {row : Row} (h : row.get? c.field = none) (other : Row) :
    c.compareRows row other = c.compareRows (row.insert c.field .null) other
      ∧ c.compareRows other row = c.compareRows other (row.insert c.field .null) := by
  have hnull : c.cell row = c.cell (row.insert c.field .null) := by
    rw [cell, cell, value?, value?, h, Row.get?_insert, if_pos rfl]
    rfl
  exact ⟨compareRows_congr hnull rfl, compareRows_congr rfl hnull⟩

/-- The order of a column in a direction. -/
def compareTowards (c : Column) (descending : Bool) (a b : Row) : Ordering :=
  if descending then c.compareRows b a else c.compareRows a b

instance (c : Column) (descending : Bool) : TransCmp (c.compareTowards descending) := by
  cases descending
  · exact inferInstanceAs (TransCmp c.compareRows)
  · exact inferInstanceAs (TransCmp fun a b => c.compareRows b a)

/-- Turned around, a comparison is greater exactly when it was less. -/
lemma compareTowards_eq_gt_iff {descending : Bool} {a b : Row} :
    c.compareTowards descending a b = .gt
      ↔ c.compareRows a b = if descending then .lt else .gt := by
  cases descending with
  | false => rfl
  | true => exact OrientedCmp.gt_iff_lt

/-- The ties are the same in both directions. -/
lemma compareTowards_eq_eq_iff {descending : Bool} {a b : Row} :
    c.compareTowards descending a b = .eq ↔ c.compareRows a b = .eq := by
  cases descending with
  | false => rfl
  | true => exact OrientedCmp.eq_comm

end Column

namespace Grid

variable {g : Grid} {c : Column} {field : String}

lemma inOrder_eq (c : Column) (descending : Bool) :
    inOrder c descending = (c.compareTowards descending · · != .gt) := by
  funext a b
  rw [Bool.eq_iff_iff, bne_iff_ne, Ne, Column.compareTowards_eq_gt_iff]
  cases descending <;> simp [inOrder]

/-! ## Sorting by a column -/

/-- The rows that are left after asking for a sort: a refused sort leaves them as they are. -/
def rowsAfterSort (g : Grid) (rows : List Row) (field : String) (descending : Bool) : List Row :=
  match g.sortRows rows field descending with
  | .ok sorted => sorted
  | .error _ => rows

lemma column?_eq_none (h : ∀ c ∈ g.columns, c.field ≠ field) : g.column? field = none :=
  List.find?_eq_none.2 fun c hc => by simpa using h c hc

lemma column?_of_first {before after : List Column} (hg : g.columns = before ++ c :: after)
    (hbefore : ∀ c' ∈ before, c'.field ≠ field) (hc : c.field = field) :
    g.column? field = some c := by
  rw [column?, List.find?_eq_some_iff_append]
  exact ⟨by simpa using hc, before, after, hg, fun c' hc' => by simpa using hbefore c' hc'⟩

/-- A sort by a column of the grid gives the stable sort in the order of the column. -/
lemma sortRows_eq_ok_iff (hc : g.column? field = some c) {rows sorted : List Row}
    {descending : Bool} : g.sortRows rows field descending = .ok sorted
      ↔ IsStableSort (c.compareTowards descending) rows sorted := by
  have hsort : IsStableSort (c.compareTowards descending) rows
      (rows.mergeSort (inOrder c descending)) := by
    rw [inOrder_eq]
    exact isStableSort_mergeSort rows
  simp only [sortRows, hc, Except.ok.injEq]
  exact ⟨fun h => h ▸ hsort, fun h => hsort.unique h⟩

lemma exists_sortRows (hc : g.column? field = some c) (rows : List Row) (descending : Bool) :
    ∃ sorted, g.sortRows rows field descending = .ok sorted :=
  ⟨rows.mergeSort (inOrder c descending), by simp only [sortRows, hc]⟩

/-- Rows are sorted by a stable sort in the order of the column.  Where no column has the field the
sort is refused, and the rows stay as they are.  Otherwise the first column with the field decides:
the sorted rows are the rows in another order, none of them is greater than a later one (less, in a
descending sort), and those that compare equal keep their order in both directions.  So sorting once
more changes nothing, and a descending sort is the reversed ascending sort of the reversed rows.  A
row that lacks the field is ordered as if the field were null. -/
theorem sortRows_is_stable (g : Grid) (rows : List Row) (field : String) (descending : Bool) :
    ((∀ c ∈ g.columns, c.field ≠ field) →
      g.sortRows rows field descending = .error (.unknownSortColumn field)
        ∧ g.rowsAfterSort rows field descending = rows)
      ∧ (∀ before c after, g.columns = before ++ c :: after →
        (∀ c' ∈ before, c'.field ≠ field) → c.field = field →
        ∃ sorted, g.sortRows rows field descending = .ok sorted
          ∧ g.rowsAfterSort rows field descending = sorted
          ∧ sorted.Perm rows
          ∧ sorted.Pairwise (fun a b => c.compareRows a b ≠ if descending then .lt else .gt)
          ∧ (∀ row, sorted.filter (c.compareRows row · == .eq)
            = rows.filter (c.compareRows row · == .eq))
          ∧ g.sortRows sorted field descending = .ok sorted
          ∧ g.sortRows rows field true
            = (g.sortRows rows.reverse field false).map List.reverse)
      ∧ ∀ (c : Column) (row other : Row), row.get? c.field = none →
        c.compareRows row other = c.compareRows (row.insert c.field .null) other
          ∧ c.compareRows other row = c.compareRows other (row.insert c.field .null) := by
  refine ⟨fun h => ?_, fun before c after hg hbefore hfield => ?_,
    fun c row other h => Column.compareRows_of_missing h other⟩
  · have hrefused : g.sortRows rows field descending = .error (.unknownSortColumn field) := by
      rw [sortRows, column?_eq_none h]
    exact ⟨hrefused, by rw [rowsAfterSort, hrefused]⟩
  · have hc := column?_of_first hg hbefore hfield
    obtain ⟨sorted, hsorted⟩ := exists_sortRows hc rows descending
    obtain ⟨ascending, hascending⟩ := exists_sortRows hc rows.reverse false
    have hstable := (sortRows_eq_ok_iff hc).1 hsorted
    refine ⟨sorted, hsorted, by rw [rowsAfterSort, hsorted], hstable.perm, ?_, fun row => ?_,
      (sortRows_eq_ok_iff hc).2 (.refl hstable.ordered), ?_⟩
    · exact hstable.ordered.imp fun hab => mt Column.compareTowards_eq_gt_iff.2 hab
    · have hties : (c.compareTowards descending row · == .eq) = (c.compareRows row · == .eq) := by
        funext other
        rw [Bool.eq_iff_iff, beq_iff_eq, beq_iff_eq, Column.compareTowards_eq_eq_iff]
      exact hties ▸ hstable.ties row
    · rw [hascending]
      exact (sortRows_eq_ok_iff hc).2 ((sortRows_eq_ok_iff hc).1 hascending).reverse

/-- Two ranges that start on the same day keep their order in a descending sort, with a later day
between them. -/
theorem sortRows_of_ranges :
    let period : Column := { Column.new "period" with comparator := some .dateTime }
    let g : Grid := ⟨"plan", "", [Column.new "name", period], .empty, [], ⟨false, false⟩⟩
    let day := Row.ofList [("period", .string "2024-05-01")]
    let later := Row.ofList [("period", .string "2024-06-01")]
    let range := Row.ofList [("period", .string "01.05.2024 - 31.05.2024")]
    (∃ sorted, g.sortRows [day, later, range] "period" true = .ok sorted
      ∧ sorted.Perm [day, later, range]
      ∧ sorted.filter (period.compareRows day · == .eq) = [day, range])
      ∧ g.rowsAfterSort [day, later, range] "total" true = [day, later, range]
      ∧ period.compareRows .empty day
        = period.compareRows (Row.empty.insert "period" .null) day := by
  intro period g day later range
  obtain ⟨-, sorts, missing⟩ := sortRows_is_stable g [day, later, range] "period" true
  obtain ⟨refused, -, -⟩ := sortRows_is_stable g [day, later, range] "total" true
  obtain ⟨sorted, hsorted, -, hperm, -, hties, -⟩ :=
    sorts [Column.new "name"] period [] rfl (by decide) rfl
  have hday : [day, later, range].filter (period.compareRows day · == .eq) = [day, range] := by
    decide +kernel
  exact ⟨⟨sorted, hsorted, hperm, (hties day).trans hday⟩, (refused (by decide)).2,
    (missing period .empty day rfl).1⟩

end Grid

end GridRules
