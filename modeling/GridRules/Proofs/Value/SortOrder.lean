import GridRules.Proofs.Value.NumberLiteral
import GridRules.Value.Comparison

/-!
# The order that sorts mixed values

The sort order is a total preorder on all values (the instance of `Std.TransCmp` for
`Value.sortOrder`), and it keeps the groups of values apart: null, truth values, numbers together
with the texts that denote one, other texts, lists and objects (`sortOrder_of_group_lt`).

A key is sorted by three coordinates, one after the other: the position of its group, a number and a
text.  Each of them has a total order, so the laws of the sort order are those of a lexicographic
order (`SortKey.order_eq_lexicographic`).
-/

namespace GridRules

open Std (OrientedCmp ReflCmp TransCmp)

/-- What is ordered by a key in a total preorder is in a total preorder itself. -/
lemma transCmp_of_key {α β : Type} {cmp : α → α → Ordering} {order : β → β → Ordering}
    [TransCmp order] (key : α → β) (h : ∀ a b, cmp a b = order (key a) (key b)) : TransCmp cmp where
  eq_swap := by
    intro a b
    rw [h, h]
    exact OrientedCmp.eq_swap
  isLE_trans := by
    intro a b c hab hbc
    rw [h] at *
    exact TransCmp.isLE_trans hab hbc

/-! ## Keys in lexicographic order -/

namespace SortKey

/-- The group, the number and the text by which a key is sorted; zero and the empty text where the
group has none. -/
def coordinates : SortKey → Nat × Int × String
  | null => (0, 0, "")
  | bool b => (1, b.toNat, "")
  | number x => (2, x.totalPlace, "")
  | text s => (3, 0, s)
  | composite s => (4, 0, s)

/-- The coordinates are compared one after the other. -/
def lexicographic : SortKey → SortKey → Ordering :=
  compareLex (compareOn fun key => key.coordinates.1)
    (compareLex (compareOn fun key => key.coordinates.2.1)
      (compareOn fun key => key.coordinates.2.2))

instance : TransCmp lexicographic := by
  unfold lexicographic
  infer_instance

lemma order_eq_lexicographic (a b : SortKey) : a.order b = lexicographic a b := by
  cases a with
  | null => cases b <;> rfl
  | bool a =>
    cases b with
    | bool b => cases a <;> cases b <;> rfl
    | _ => rfl
  | number x =>
    cases b with
    | number y =>
      simp [order, orderInGroup, group, lexicographic, compareLex, compareOn, coordinates,
        Double.totalOrder]
    | _ => rfl
  | text s => cases b <;> rfl
  | composite s => cases b <;> rfl

instance : TransCmp order := transCmp_of_key id order_eq_lexicographic

lemma order_of_group_lt {a b : SortKey} (h : a.group < b.group) : a.order b = .lt := by
  rw [order, Nat.compare_eq_lt.2 h]
  rfl

end SortKey

namespace Value

instance : TransCmp sortOrder := transCmp_of_key sortKey fun _ _ => rfl

/-! ## Groups -/

/-- A value is a number, or a text that denotes one. -/
inductive ReadsAs : Value → Double → Prop
  /-- A number, by its double. -/
  | number (n : Number) : ReadsAs (.number n) n.toDouble
  /-- A text that denotes a number, white space around it aside. -/
  | text {s : String} {x : Double} (h : Denotes (Text.trim s.toList) x) : ReadsAs (.string s) x

/-- The groups of mixed values by their positions in the sort order. -/
inductive InGroup : Value → Nat → Prop
  /-- Null comes first. -/
  | null : InGroup .null 0
  /-- Truth values. -/
  | bool (b : Bool) : InGroup (.bool b) 1
  /-- Numbers, and the texts that denote one. -/
  | numeric {v : Value} {x : Double} (h : v.ReadsAs x) : InGroup v 2
  /-- Texts that denote no number. -/
  | text {s : String} (h : ∀ x, ¬ ReadsAs (.string s) x) : InGroup (.string s) 3
  /-- Lists, among the objects. -/
  | array (items : List Value) : InGroup (.array items) 4
  /-- Objects, among the lists. -/
  | object (fields : List (String × Value)) : InGroup (.object fields) 4

lemma sortKey_of_readsAs {v : Value} {x : Double} (h : v.ReadsAs x) : v.sortKey = .number x := by
  cases h with
  | number n => rfl
  | @text s _ h =>
    have hblank : Text.isBlank s.toList = false := by
      by_contra hb
      exact not_denotes_of_isBlank (Bool.not_eq_false _ ▸ hb) x h
    obtain ⟨hx, hnan⟩ := denotes_iff.1 h
    have hne : Text.trim s.toList ≠ [] := by
      rw [Ne, Text.trim_eq_nil_iff, hblank]
      exact Bool.false_ne_true
    simp [sortKey, numberOfText, hne, hx, hnan, hblank]

lemma sortKey_of_not_readsAs {s : String} (h : ∀ x, ¬ ReadsAs (.string s) x) :
    sortKey (.string s) = .text s := by
  rw [sortKey]
  refine if_pos ?_
  rw [Bool.or_eq_true, or_iff_not_imp_left]
  intro hblank
  by_contra hnan
  have hne : Text.trim s.toList ≠ [] := fun ht => hblank (Text.trim_eq_nil_iff.1 ht)
  rw [numberOfText, if_neg hne] at hnan
  exact h _ (.text (denotes_iff.2 ⟨rfl, Bool.eq_false_iff.2 hnan⟩))

lemma InGroup.group_sortKey {v : Value} {i : Nat} (h : v.InGroup i) : v.sortKey.group = i := by
  cases h with
  | null => rfl
  | bool b => rfl
  | numeric h => rw [sortKey_of_readsAs h]; rfl
  | text h => rw [sortKey_of_not_readsAs h]; rfl
  | array items => rfl
  | object fields => rfl

lemma exists_inGroup (v : Value) : ∃ i, v.InGroup i := by
  cases v with
  | null => exact ⟨0, .null⟩
  | bool b => exact ⟨1, .bool b⟩
  | number n => exact ⟨2, .numeric (.number n)⟩
  | string s =>
    by_cases h : ∃ x, ReadsAs (.string s) x
    · obtain ⟨x, hx⟩ := h
      exact ⟨2, .numeric hx⟩
    · exact ⟨3, .text fun x hx => h ⟨x, hx⟩⟩
  | array items => exact ⟨4, .array items⟩
  | object fields => exact ⟨4, .object fields⟩

lemma InGroup.unique {v : Value} {i j : Nat} (hi : v.InGroup i) (hj : v.InGroup j) : i = j :=
  hi.group_sortKey.symm.trans hj.group_sortKey

/-- Blank text denotes no number, although its numeric reading is zero. -/
lemma inGroup_of_isBlank {s : String} (h : Text.isBlank s.toList = true) :
    InGroup (.string s) 3 := by
  refine .text fun x hx => ?_
  cases hx with
  | text hx => exact not_denotes_of_isBlank h x hx

lemma sortOrder_of_group_lt {a b : Value} {i j : Nat} (ha : a.InGroup i) (hb : b.InGroup j)
    (h : i < j) : a.sortOrder b = .lt := by
  refine SortKey.order_of_group_lt ?_
  rw [ha.group_sortKey, hb.group_sortKey]
  exact h

lemma sortOrder_of_readsAs {a b : Value} {x y : Double} (ha : a.ReadsAs x) (hb : b.ReadsAs y) :
    a.sortOrder b = x.totalOrder y := by
  rw [sortOrder, sortKey_of_readsAs ha, sortKey_of_readsAs hb]
  rfl

/-- The sort order is a total preorder on all values: it is reflexive, turning the sides around
turns the answer around, and it is transitive, so that values that are sorted as equal are sorted
alike against any other value.  Every value is in one of the groups, and the groups follow each
other: null, truth values, numbers and the texts that denote one, other texts with the blank ones
among them, lists and objects.  Numbers and the texts that denote one are sorted by the number. -/
theorem sortOrder_is_total_preorder :
    (∀ a : Value, a.sortOrder a = .eq)
      ∧ (∀ a b : Value, b.sortOrder a = (a.sortOrder b).swap)
      ∧ (∀ a b c : Value, a.sortOrder b ≠ .gt → b.sortOrder c ≠ .gt → a.sortOrder c ≠ .gt)
      ∧ (∀ a b c : Value, a.sortOrder b = .eq → a.sortOrder c = b.sortOrder c)
      ∧ (∀ a : Value, ∃! i, a.InGroup i)
      ∧ (∀ (a b : Value) (i j : Nat), a.InGroup i → b.InGroup j → i < j → a.sortOrder b = .lt)
      ∧ (∀ (a b : Value) (x y : Double), a.ReadsAs x → b.ReadsAs y →
        a.sortOrder b = x.totalOrder y)
      ∧ ∀ s : String, Text.isBlank s.toList = true → InGroup (.string s) 3 := by
  refine ⟨fun a => ReflCmp.compare_self, fun a b => OrientedCmp.eq_swap, fun a b c hab hbc => ?_,
    fun a b c h => TransCmp.congr_left h, fun a => ?_,
    fun a b i j ha hb h => sortOrder_of_group_lt ha hb h,
    fun a b x y ha hb => sortOrder_of_readsAs ha hb, fun s hs => inGroup_of_isBlank hs⟩
  · have hac : (a.sortOrder c).isLE :=
      TransCmp.isLE_trans (Ordering.isLE_iff_ne_gt.2 hab) (Ordering.isLE_iff_ne_gt.2 hbc)
    exact Ordering.isLE_iff_ne_gt.1 hac
  · obtain ⟨i, hi⟩ := exists_inGroup a
    exact ⟨i, hi, fun j hj => hj.unique hi⟩

/-- Of a text in radix sixteen, the greatest whole number and a blank text each comes before the
next one; the text is sorted as the decimal numeral of the same number is. -/
theorem sortOrder_of_mixed_values :
    let greatest := Value.number (.integer 18446744073709551615 (by decide))
    sortOrder (.string " 0x1F") greatest = .lt ∧ greatest.sortOrder (.string "\t") = .lt
      ∧ sortOrder (.string " 0x1F") (.string "\t") ≠ .gt
      ∧ sortOrder (.string " 0x1F") greatest = sortOrder (.string "31") greatest := by
  intro greatest
  obtain ⟨-, -, trans, congr, -, groups, numbers, blank⟩ := sortOrder_is_total_preorder
  have hhex : ReadsAs (.string " 0x1F") (.ofInt (31 : Nat)) := .text (.radix rfl rfl)
  have hdecimal : ReadsAs (.string "31") (Numeral.toDouble ⟨false, ['3', '1'], [], 0⟩) :=
    .text (.decimal rfl)
  have hgreatest : greatest.ReadsAs (.ofInt 18446744073709551615) := .number _
  have hlt : sortOrder (.string " 0x1F") greatest = .lt := by
    rw [numbers _ _ _ _ hhex hgreatest]
    decide +kernel
  have hgt : greatest.sortOrder (.string "\t") = .lt :=
    groups _ _ 2 3 (.numeric hgreatest) (blank "\t" (by decide)) (by decide)
  have heq : sortOrder (.string " 0x1F") (.string "31") = .eq := by
    rw [numbers _ _ _ _ hhex hdecimal]
    decide +kernel
  exact ⟨hlt, hgt, trans _ greatest _ (by simp [hlt]) (by simp [hgt]), congr _ _ _ heq⟩

end Value

end GridRules
