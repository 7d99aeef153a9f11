import GridRules.Menu
import GridRules.Proofs.Slot.RoundTrip

/-!
# Menus round trip

A menu that is read from a typed document is read back from the list that it is written as
(`Menu.stable_decode`).  An entry is read from the value of its document, so an item is read from
the document of a value already when it is read first; that document is typed as well.
-/

namespace GridRules

open Document

namespace MenuItem

/-- The slot of a draft can be restored where it was read. -/
def Draft.Restorable (t : Draft) : Prop :=
  ∀ slot ∈ t.disabled, Restores Slot.decode Slot.toValue slot

lemma Draft.Restorable.take ⦃t name d t'⦄ (h : Restorable t) (hd : d.Typed)
    (htake : t.take name d = .ok t') : t'.Restorable := by
  unfold Draft.take at htake
  split at htake
  case h_3 =>
    obtain ⟨slot, hslot, rfl⟩ := once_map_eq_ok htake
    exact fun _ hs => Option.mem_some.1 hs ▸ Slot.stable_decode hd hslot
  -- the other fields are restored whatever is read
  all_goals
    obtain ⟨_, -, rfl⟩ := once_map_eq_ok htake
    exact h

lemma restores {i : MenuItem} (disabled : Restores Slot.decode Slot.toValue i.disabled) :
    Restores decode toValue i := by
  have action : RestoresOptional asText .string i.action :=
    restores_optional (fun s _ => restores_asText s) (by simp)
  have cssClasses : Restores (listOf asText) Value.ofStrings i.cssClasses :=
    restores_listOf fun s _ => restores_asText s
  constructor
  · refine Value.sorted_of_names ["action", "css_classes", "disabled", "name"] (by decide) rfl ?_
    simp [action.sorted, cssClasses.sorted, disabled.sorted]
  · rw [decode, toValue, structureOf_ofValue,
      takeEntries_once (by decide) action fun _ => rfl,
      takeEntries_once (by decide) cssClasses fun _ => rfl,
      takeEntries_once (by decide) disabled fun _ => rfl,
      takeEntries_once (by decide) (restores_asText i.name) fun _ => rfl]
    rfl

lemma stable_decode : Stable decode toValue := by
  intro d i hd h
  unfold decode at h
  split at h
  · cases h
  · rename_i t ht
    have hstart : Draft.Restorable ⟨none, none, none, none⟩ := fun _ h => nomatch h
    have hdraft := structureOf_preserves Draft.Restorable.take hd hstart ht
    obtain ⟨name, -, rfl⟩ := exists_of_map_eq_ok h
    exact restores (restores_getD hdraft Slot.restores_unset)

end MenuItem

lemma MenuEntry.stable_decode : Stable decode toValue := by
  intro d entry _ h
  unfold decode at h
  split at h
  · cases h
  · obtain rfl := Except.ok.inj h
    exact ⟨.string _, rfl⟩
  · -- the item is read from the document of a value, which is typed whatever the value is
    rename_i fields hv
    obtain ⟨i, hi, rfl⟩ := exists_of_map_eq_ok h
    have hitem : Restores MenuItem.decode MenuItem.toValue i :=
      MenuItem.stable_decode (typed_ofValue (.object fields)) hi
    refine ⟨hitem.sorted, ?_⟩
    rw [decode, toValue, toValue_ofValue hitem.sorted]
    change (MenuItem.decode (ofValue i.toValue)).map item = .ok (item i)
    rw [hitem.decoded]
    rfl
  · cases h

namespace Menu

/-- A menu that is read from a typed document is read back from what it is written as. -/
theorem stable_decode : Stable decode toValue := MenuEntry.stable_decode.listOf

lemma restores_empty : Restores decode toValue [] := ⟨.array (by simp), rfl⟩

end Menu

end GridRules
