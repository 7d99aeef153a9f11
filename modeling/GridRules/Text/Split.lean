/-!
# Cutting a text at a separator

`splitOnce` cuts at the first occurrence of a separator text. The main statement says that the cut
loses nothing: the separator put back between the halves gives the text.
-/

namespace GridRules.Text

/-- The text before and after the first occurrence of `sep`; `none` when it does not occur. -/
def splitOnce (sep : List Char) : List Char → Option (List Char × List Char)
  | [] => if sep.isEmpty then some ([], []) else none
  | c :: r =>
    if sep.isPrefixOf (c :: r) then some ([], (c :: r).drop sep.length)
    else (splitOnce sep r).map fun (head, tail) => (c :: head, tail)

/-- A cut puts the separator back between its two halves. -/
theorem eq_of_splitOnce {sep s head tail : List Char} (h : splitOnce sep s = some (head, tail)) :
    s = head ++ sep ++ tail := by
  induction s generalizing head with
  | nil =>
    unfold splitOnce at h
    split at h
    · simp_all
    · simp at h
  | cons c r ih =>
    unfold splitOnce at h
    split at h
    · rename_i hp
      obtain ⟨t, ht⟩ := List.isPrefixOf_iff_prefix.1 hp
      simp only [Option.some.injEq, Prod.mk.injEq] at h
      obtain ⟨rfl, rfl⟩ := h
      rw [← ht]
      simp
    · obtain ⟨⟨a, b⟩, hab, he⟩ := Option.map_eq_some_iff.1 h
      simp only [Prod.mk.injEq] at he
      obtain ⟨rfl, rfl⟩ := he
      simpa using ih hab

end GridRules.Text
