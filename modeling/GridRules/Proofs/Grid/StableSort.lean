import Mathlib.Data.List.Basic

/-!
# Stable sorts

A stable sort of a list loses no item, puts no item after one that it has to precede, and keeps the
order of the items that compare equal.  For a total preorder there is exactly one such list
(`IsStableSort.unique`), and merge sort finds it (`isStableSort_mergeSort`).

What follows for any stable sort follows from that: a sorted list is its own sort
(`IsStableSort.refl`), and the sort in the opposite order is the reversed sort of the reversed list
(`IsStableSort.reverse`), since turning a list around twice leaves ties as they were.
-/

namespace GridRules

open Std (OrientedCmp ReflCmp TransCmp)

variable {α : Type} {cmp : α → α → Ordering} {items sorted : List α}

/-- A list is the stable sort of another one. -/
structure IsStableSort (cmp : α → α → Ordering) (items sorted : List α) : Prop where
  /-- No item is lost and none is added. -/
  perm : sorted.Perm items
  /-- No item is greater than a later one. -/
  ordered : sorted.Pairwise fun a b => cmp a b ≠ .gt
  /-- The items that compare equal to any item keep their order. -/
  ties : ∀ a, sorted.filter (cmp a · == .eq) = items.filter (cmp a · == .eq)

namespace IsStableSort

lemma refl (h : sorted.Pairwise fun a b => cmp a b ≠ .gt) : IsStableSort cmp sorted sorted :=
  ⟨List.Perm.refl _, h, fun _ => rfl⟩

variable [TransCmp cmp]

/-- The first of ordered items is no greater than any of them. -/
lemma isLE_of_mem {a b : α} {r : List α} (hr : (a :: r).Pairwise fun a b => cmp a b ≠ .gt)
    (hb : b ∈ a :: r) : (cmp a b).isLE := by
  rcases List.mem_cons.1 hb with rfl | hb
  · have hself : cmp b b = .eq := ReflCmp.compare_self
    rw [hself]
    rfl
  · exact Ordering.isLE_iff_ne_gt.2 ((List.pairwise_cons.1 hr).1 b hb)

/-- The first items of two ordered arrangements of the same items compare equal. -/
lemma compare_first {a b : α} {r t : List α} (hperm : (a :: r).Perm (b :: t))
    (hr : (a :: r).Pairwise fun a b => cmp a b ≠ .gt)
    (ht : (b :: t).Pairwise fun a b => cmp a b ≠ .gt) : cmp a b = .eq := by
  have hab : (cmp a b).isLE := isLE_of_mem hr (hperm.mem_iff.2 List.mem_cons_self)
  have hba : (cmp b a).isLE := isLE_of_mem ht (hperm.mem_iff.1 List.mem_cons_self)
  exact OrientedCmp.isLE_antisymm hab hba

/-- There is one stable sort of a list. -/
theorem unique {other : List α} (h : IsStableSort cmp items sorted)
    (h' : IsStableSort cmp items other) : sorted = other := by
  induction sorted generalizing items other with
  | nil =>
    obtain rfl := h.perm.nil_eq
    exact h'.perm.symm.nil_eq
  | cons a r ih =>
    have hperm := h.perm.trans h'.perm.symm
    cases other with
    | nil => exact absurd hperm.length_eq (by simp)
    | cons b t =>
      have hab := compare_first hperm h.ordered h'.ordered
      have hties := fun x => (h.ties x).trans (h'.ties x).symm
      -- both first items lead the ties of the first one
      obtain rfl : a = b := by
        have hself : cmp a a = .eq := ReflCmp.compare_self
        have hlead := hties a
        rw [List.filter_cons_of_pos (by simp [hself]), List.filter_cons_of_pos (by simp [hab])]
          at hlead
        exact (List.cons.inj hlead).1
      have hrest : IsStableSort cmp t r := by
        refine ⟨hperm.cons_inv, h.ordered.tail, fun x => ?_⟩
        have hx := hties x
        rw [List.filter_cons, List.filter_cons] at hx
        split at hx
        · exact (List.cons.inj hx).2
        · exact hx
      rw [ih hrest (refl h'.ordered.tail)]

/-- The reversed sort of the reversed list is the sort in the opposite order. -/
theorem reverse (h : IsStableSort cmp items.reverse sorted) :
    IsStableSort (fun a b => cmp b a) items sorted.reverse where
  perm := (sorted.reverse_perm.trans h.perm).trans items.reverse_perm
  ordered := List.pairwise_reverse.2 h.ordered
  ties a := by
    have hflip : (fun x => cmp x a == .eq) = (cmp a · == .eq) := by
      funext x
      rw [Bool.eq_iff_iff, beq_iff_eq, beq_iff_eq]
      exact OrientedCmp.eq_comm
    rw [hflip, List.filter_reverse, h.ties, List.filter_reverse, List.reverse_reverse]

end IsStableSort

/-- Merge sort by a total preorder is stable. -/
theorem isStableSort_mergeSort [TransCmp cmp] (items : List α) :
    IsStableSort cmp items (items.mergeSort (cmp · · != .gt)) := by
  have trans : ∀ a b c : α, (cmp a b != .gt) = true → (cmp b c != .gt) = true →
      (cmp a c != .gt) = true := by
    simp only [bne_iff_ne, ← Ordering.isLE_iff_ne_gt]
    exact fun a b c => TransCmp.isLE_trans
  have total : ∀ a b : α, ((cmp a b != .gt) || (cmp b a != .gt)) = true := by
    intro a b
    have hswap : cmp b a = (cmp a b).swap := OrientedCmp.eq_swap
    rw [hswap]
    cases cmp a b <;> rfl
  have hperm := items.mergeSort_perm (cmp · · != .gt)
  refine ⟨hperm, ?_, fun a => ?_⟩
  · simpa only [bne_iff_ne] using List.pairwise_mergeSort trans total items
  · -- the ties stand in order already, so the sort keeps them as a sublist, and it has no others
    have hties : (items.filter (cmp a · == .eq)).Pairwise fun x y => (cmp x y != .gt) = true := by
      refine List.pairwise_of_forall_mem_list fun x hx y hy => ?_
      have hxa := beq_iff_eq.1 (List.mem_filter.1 hx).2
      have hya := beq_iff_eq.1 (List.mem_filter.1 hy).2
      rw [← TransCmp.congr_left hxa, hya]
      rfl
    have hsub := (List.sublist_mergeSort trans total hties List.filter_sublist).filter
      (cmp a · == .eq)
    simp only [List.filter_filter, Bool.and_self] at hsub
    exact (hsub.eq_of_length (hperm.filter _).length_eq.symm).symm

end GridRules
