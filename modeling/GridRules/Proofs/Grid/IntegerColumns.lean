import GridRules.Proofs.Double.WholeNumbers
import GridRules.Proofs.Grid.SortedRows

/-!
# Columns of whole numbers

A column without a comparator of its own orders whole numbers by their doubles.  Up to two to the
power of 53 that is the order of the numbers.  Beyond it two numbers with one double count as equal,
and then the order in which the rows came decides (`Grid.whole_numbers_sort_by_doubles`).
-/

namespace GridRules

open Std (TransCmp)

namespace Column

variable {c : Column} {row a b : Row} {m n : ℤ}

/-- The whole number in the cell of a row; a cell that holds anything else has none. -/
def integer? (c : Column) (row : Row) : Option ℤ :=
  match c.value? row with
  | some (.number (.integer n _)) => some n
  | _ => none

lemma integer?_eq_some_iff :
    c.integer? row = some n ↔ ∃ fits, c.value? row = some (.number (.integer n fits)) := by
  unfold integer?
  constructor
  · intro h
    split at h
    · rename_i k fits hvalue
      obtain rfl := Option.some.inj h
      exact ⟨fits, hvalue⟩
    · cases h
  · rintro ⟨fits, hvalue⟩
    rw [hvalue]

/-- The whole numbers of cells fit 64 bits, so their doubles are finite. -/
lemma natAbs_lt_of_integer? (h : c.integer? row = some n) : n.natAbs < leastInfinite := by
  obtain ⟨fits, -⟩ := integer?_eq_some_iff.1 h
  have hrange : 2 ^ 64 ≤ leastInfinite := by decide +kernel
  exact lt_of_lt_of_le (by omega) hrange

/-- Rows with whole numbers are ordered by the doubles of these. -/
lemma compareRows_of_integers (hc : c.comparator = none) (ha : c.integer? a = some m)
    (hb : c.integer? b = some n) :
    c.compareRows a b = (Double.ofInt m).totalOrder (Double.ofInt n) := by
  obtain ⟨hm, ha⟩ := integer?_eq_some_iff.1 ha
  obtain ⟨hn, hb⟩ := integer?_eq_some_iff.1 hb
  rw [compareRows_of_none hc, cell, cell, ha, hb]
  exact Value.sortOrder_of_readsAs (.number (.integer m hm)) (.number (.integer n hn))

/-- Rows with whole numbers compare equal when these have one double. -/
lemma compareRows_eq_eq_iff (hc : c.comparator = none) (ha : c.integer? a = some m)
    (hb : c.integer? b = some n) :
    c.compareRows a b = .eq ↔ Double.ofInt m = Double.ofInt n := by
  rw [compareRows_of_integers hc ha hb, Double.totalOrder_eq_eq_iff]

/-- A row that does not compare greater has no greater whole number, unless the two numbers have one
double. -/
lemma le_or_eq_of_compareRows (hc : c.comparator = none) (ha : c.integer? a = some m)
    (hb : c.integer? b = some n) (h : c.compareRows a b ≠ .gt) :
    m ≤ n ∨ Double.ofInt m = Double.ofInt n := by
  rw [compareRows_of_integers hc ha hb, Double.totalOrder, Ne, Int.compare_eq_gt, not_lt] at h
  rw [or_iff_not_imp_left, not_le]
  intro hlt
  exact Double.totalPlace_injective (le_antisymm h (Double.totalPlace_ofInt_mono hlt.le))

/-- In either direction, a row that may stand before another one has no number on the wrong side of
the other's, unless the two numbers have one double. -/
lemma inOrder_or_eq_of_compareTowards {descending : Bool} (hc : c.comparator = none)
    (ha : c.integer? a = some m) (hb : c.integer? b = some n)
    (h : c.compareTowards descending a b ≠ .gt) :
    (if descending then n ≤ m else m ≤ n) ∨ Double.ofInt m = Double.ofInt n := by
  cases descending with
  | false => exact le_or_eq_of_compareRows hc ha hb h
  | true => exact (le_or_eq_of_compareRows hc hb ha h).imp_right Eq.symm

end Column

namespace Grid

variable {g : Grid} {c : Column} {field : String}

/-- Rows are sorted by a column without a comparator as the doubles of its whole numbers are.  A
number that comes before a smaller one, or a greater one in a descending sort, has the same double,
and rows compare equal exactly when their numbers have one double.  Different numbers have one
double only when both are at least two to the power of 53 or both at most its negative, and only
when their distance is a small part of their size.  So numbers up to two to the power of 53 are
sorted by their values, and only equal ones compare equal. -/
theorem whole_numbers_sort_by_doubles (hfield : g.column? field = some c)
    (hc : c.comparator = none) (rows : List Row) (descending : Bool) :
    (∃ sorted, g.sortRows rows field descending = .ok sorted
      ∧ sorted.Perm rows
      ∧ (sorted.filterMap c.integer?).Pairwise (fun m n =>
        (if descending then n ≤ m else m ≤ n) ∨ Double.ofInt m = Double.ofInt n)
      ∧ ((∀ n ∈ rows.filterMap c.integer?, |n| ≤ 2 ^ 53) →
        (sorted.filterMap c.integer?).Pairwise fun m n => if descending then n ≤ m else m ≤ n))
      ∧ ∀ (a b : Row) (m n : ℤ), c.integer? a = some m → c.integer? b = some n →
        (c.compareRows a b = .eq ↔ Double.ofInt m = Double.ofInt n)
          ∧ (Double.ofInt m = Double.ofInt n →
            (m = n ∨ 2 ^ 53 ≤ m ∧ 2 ^ 53 ≤ n ∨ m ≤ -2 ^ 53 ∧ n ≤ -2 ^ 53)
              ∧ |m - n| * 2 ^ 53 ≤ |m| + |n|)
          ∧ (|m| ≤ 2 ^ 53 → |n| ≤ 2 ^ 53 → (c.compareRows a b = .eq ↔ m = n)) := by
  have hone : ∀ {a b : Row} {m n : ℤ}, c.integer? a = some m → c.integer? b = some n →
      Double.ofInt m = Double.ofInt n →
        (m = n ∨ 2 ^ 53 ≤ m ∧ 2 ^ 53 ≤ n ∨ m ≤ -2 ^ 53 ∧ n ≤ -2 ^ 53)
          ∧ |m - n| * 2 ^ 53 ≤ |m| + |n| := fun ha hb =>
    Double.eq_or_large_of_ofInt_eq (Column.natAbs_lt_of_integer? ha)
      (Column.natAbs_lt_of_integer? hb)
  have hsmall : ∀ {a b : Row} {m n : ℤ}, c.integer? a = some m → c.integer? b = some n →
      |m| ≤ 2 ^ 53 → |n| ≤ 2 ^ 53 → Double.ofInt m = Double.ofInt n → m = n := by
    intro a b m n ha hb hm hn hsame
    rw [abs_le] at hm hn
    rcases (hone ha hb hsame).1 with heq | hlarge | hlarge
    · exact heq
    · omega
    · omega
  constructor
  · obtain ⟨sorted, hsorted⟩ := exists_sortRows hfield rows descending
    have hstable := (sortRows_eq_ok_iff hfield).1 hsorted
    refine ⟨sorted, hsorted, hstable.perm, ?_, fun hrange => ?_⟩
    · rw [List.pairwise_filterMap]
      refine hstable.ordered.imp fun {a b} h m ha n hb => ?_
      exact Column.inOrder_or_eq_of_compareTowards hc ha hb h
    · rw [List.pairwise_filterMap]
      refine hstable.ordered.imp_of_mem fun {a b} hmem hmem' h m ha n hb => ?_
      have hm := hrange m (List.mem_filterMap.2 ⟨a, hstable.perm.mem_iff.1 hmem, ha⟩)
      have hn := hrange n (List.mem_filterMap.2 ⟨b, hstable.perm.mem_iff.1 hmem', hb⟩)
      rcases Column.inOrder_or_eq_of_compareTowards hc ha hb h with hle | hsame
      · exact hle
      · obtain rfl := hsmall ha hb hm hn hsame
        split <;> exact le_rfl
  · intro a b m n ha hb
    have hties := Column.compareRows_eq_eq_iff hc ha hb
    refine ⟨hties, hone ha hb, fun hm hn => hties.trans ⟨hsmall ha hb hm hn, ?_⟩⟩
    rintro rfl
    rfl

/-- Numbers up to two to the power of 53 are sorted by their values with the greatest one first, and
the two greatest numbers of 64 bits compare equal. -/
theorem whole_numbers_from_the_greatest :
    let id := Column.new "id"
    let g : Grid := ⟨"orders", "", [id], .empty, [], ⟨false, false⟩⟩
    let two := Row.ofList [("id", .number (.integer 2 (by decide)))]
    let negative := Row.ofList [("id", .number (.integer (-7) (by decide)))]
    let large := Row.ofList [("id", .number (.integer 9007199254740992 (by decide)))]
    let greatest := Row.ofList [("id", .number (.integer 18446744073709551615 (by decide)))]
    let next := Row.ofList [("id", .number (.integer 18446744073709551614 (by decide)))]
    (∃ sorted, g.sortRows [two, large, negative] "id" true = .ok sorted
      ∧ sorted.Perm [two, large, negative]
      ∧ (sorted.filterMap id.integer?).Pairwise fun m n => n ≤ m)
      ∧ id.compareRows greatest next = .eq := by
  intro id g two negative large greatest next
  have hfield : g.column? "id" = some id := by decide
  obtain ⟨⟨sorted, hsorted, hperm, -, hvalues⟩, hties⟩ :=
    whole_numbers_sort_by_doubles hfield rfl [two, large, negative] true
  have hrange : ∀ n ∈ [two, large, negative].filterMap id.integer?, |n| ≤ 2 ^ 53 := by
    decide +kernel
  exact ⟨⟨sorted, hsorted, hperm, hvalues hrange⟩,
    (hties greatest next 18446744073709551615 18446744073709551614 rfl rfl).1.2 (by decide +kernel)⟩

/-- A number that doubles do not have stays before a smaller one in an ascending sort, and behind it
in a descending one: the two have one double and compare equal. -/
theorem large_whole_numbers_out_of_order :
    let id := Column.new "id"
    let g : Grid := ⟨"orders", "", [id], .empty, [], ⟨false, false⟩⟩
    let greater := Row.ofList [("id", .number (.integer 9007199254740993 (by decide)))]
    let smaller := Row.ofList [("id", .number (.integer 9007199254740992 (by decide)))]
    g.column? "id" = some id ∧ id.comparator = none
      ∧ id.integer? greater = some 9007199254740993 ∧ id.integer? smaller = some 9007199254740992
      ∧ id.compareRows greater smaller = .eq
      ∧ g.sortRows [greater, smaller] "id" false = .ok [greater, smaller]
      ∧ g.sortRows [smaller, greater] "id" true = .ok [smaller, greater] := by
  intro id g greater smaller
  have hfield : g.column? "id" = some id := by decide
  have hkept : ∀ {rows : List Row} {descending : Bool},
      (rows.Pairwise fun a b => id.compareTowards descending a b ≠ .gt) →
      g.sortRows rows "id" descending = .ok rows := fun h =>
    (sortRows_eq_ok_iff hfield).2 (.refl h)
  exact ⟨hfield, rfl, rfl, rfl, by decide +kernel, hkept (by decide +kernel),
    hkept (by decide +kernel)⟩

end Grid

end GridRules
