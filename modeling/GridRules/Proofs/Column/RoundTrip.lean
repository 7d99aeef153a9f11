import GridRules.Column.Wire
import GridRules.Proofs.Slot.RoundTrip

/-!
# Columns round trip

A column that is read from a typed document is read back from the object that it is written as
(`Column.stable_decode`).  Filters, comparators and decimal settings are restored whatever they are.
The other parts are restored only as far as they were read: the parameters of a component, the slot
that says whether a cell may be edited, and the class rules.  For these a draft keeps what was found
when the field was read (`Draft.Restorable`).
-/

namespace GridRules

open Document

/-! ## Filters, comparators and decimal settings -/

lemma FilterSpec.restores (spec : FilterSpec) : Restores decode toValue spec := by
  obtain ⟨rangeField⟩ := spec
  have hrange : (Value.ofOption .string rangeField).Sorted :=
    Value.sorted_ofOption fun s _ => .string s
  constructor
  · exact Value.sorted_of_names ["kind", "range_field"] (by decide) rfl (by simp [hrange])
  · cases rangeField with
    | none => rfl
    | some s => rfl

lemma Comparator.restores (comparator : Comparator) : Restores decode toValue comparator := by
  cases comparator with
  | dateTime => exact ⟨.string _, rfl⟩

lemma DecimalSettings.restores (settings : DecimalSettings) :
    Restores decode toValue settings where
  sorted := Value.sorted_of_names ["country_code", "decimal_places"] (by decide) rfl
    (by simp [(restores_asCount settings.places).sorted])
  decoded := by
    rw [decode, toValue, structureOf_ofValue,
      takeEntries_once (by decide) (restores_asText settings.countryCode) fun _ => rfl,
      takeEntries_once (by decide) (restores_asCount settings.places) fun _ => rfl]
    rfl

/-! ## Components -/

namespace ComponentSpec

/-- The parameters of a draft can be restored. -/
def Draft.Restorable (draft : Draft) : Prop :=
  ∀ params ∈ draft.params, RestoresOptional Document.toValue id params

lemma stable_params : Stable (optional Document.toValue) (Value.ofOption id) := by
  -- a document that is not null at once could still be read as null, if it were not typed
  refine stable_toValue.optional fun d v hd hsome hv => ?_
  rintro rfl
  rw [hd.isNull_of_toValue hv] at hsome
  cases hsome

lemma Draft.Restorable.take ⦃draft name d draft'⦄ (h : Restorable draft) (hd : d.Typed)
    (htake : draft.take name d = .ok draft') : draft'.Restorable := by
  unfold Draft.take at htake
  split at htake
  · obtain ⟨name, -, rfl⟩ := once_map_eq_ok htake
    exact h
  · obtain ⟨params, hparams, rfl⟩ := once_map_eq_ok htake
    intro params' hp
    obtain rfl := Option.some.inj hp
    exact stable_params hd hparams

lemma restores {spec : ComponentSpec}
    (hparams : RestoresOptional Document.toValue id spec.params) :
    Restores decode toValue spec where
  sorted := Value.sorted_of_names ["component_name", "params"] (by decide) rfl
    (by simp [hparams.sorted])
  decoded := by
    rw [decode, toValue, structureOf_ofValue,
      takeEntries_once (by decide) (restores_asText spec.componentName) fun _ => rfl,
      takeEntries_once (by decide) hparams fun _ => rfl]
    rfl

lemma stable_decode : Stable decode toValue := by
  intro d spec hd h
  unfold decode at h
  split at h
  · cases h
  · rename_i draft ht
    have hstart : Draft.Restorable ⟨none, none⟩ := fun _ h => nomatch h
    have hdraft := structureOf_preserves Draft.Restorable.take hd hstart ht
    obtain ⟨name, -, rfl⟩ := exists_of_map_eq_ok h
    exact restores (restores_getD hdraft restores_none)

end ComponentSpec

/-! ## Columns -/

namespace Column

/-- The parts of a draft that were read can be restored. -/
structure Draft.Restorable (t : Draft) : Prop where
  /-- The slot that says whether a cell may be edited. -/
  editable : ∀ slot ∈ t.editable, Restores Slot.decode Slot.toValue slot
  /-- The classes of a cell. -/
  cellClassRules : ∀ rules ∈ t.cellClassRules, Restores ClassRules.decode ClassRules.toValue rules
  /-- What renders a cell. -/
  renderer : ∀ spec ∈ t.renderer, RestoresOptional ComponentSpec.decode ComponentSpec.toValue spec
  /-- What edits a cell. -/
  editor : ∀ spec ∈ t.editor, RestoresOptional ComponentSpec.decode ComponentSpec.toValue spec

lemma stable_component :
    Stable (optional ComponentSpec.decode) (Value.ofOption ComponentSpec.toValue) :=
  ComponentSpec.stable_decode.optional fun _ _ _ _ _ h => nomatch h

lemma Draft.Restorable.take ⦃t name d t'⦄ (h : Restorable t) (hd : d.Typed)
    (htake : t.take name d = .ok t') : t'.Restorable := by
  unfold Draft.take at htake
  split at htake
  case h_3 =>
    obtain ⟨slot, hslot, rfl⟩ := once_map_eq_ok htake
    exact { h with editable := fun _ hs => Option.mem_some.1 hs ▸ Slot.stable_decode hd hslot }
  case h_4 =>
    obtain ⟨rules, hrules, rfl⟩ := once_map_eq_ok htake
    exact { h with
      cellClassRules := fun _ hr => Option.mem_some.1 hr ▸ ClassRules.stable_decode hd hrules }
  case h_5 =>
    obtain ⟨spec, hspec, rfl⟩ := once_map_eq_ok htake
    exact { h with renderer := fun _ hs => Option.mem_some.1 hs ▸ stable_component hd hspec }
  case h_6 =>
    obtain ⟨spec, hspec, rfl⟩ := once_map_eq_ok htake
    exact { h with editor := fun _ hs => Option.mem_some.1 hs ▸ stable_component hd hspec }
  -- the other fields are restored whatever is read
  all_goals
    obtain ⟨_, -, rfl⟩ := once_map_eq_ok htake
    exact { h with }

/-- The object of a column is read as the column when this is so for the parts that matter. -/
lemma restores {c : Column} (editable : Restores Slot.decode Slot.toValue c.editable)
    (cellClassRules : Restores ClassRules.decode ClassRules.toValue c.cellClassRules)
    (renderer : RestoresOptional ComponentSpec.decode ComponentSpec.toValue c.renderer)
    (editor : RestoresOptional ComponentSpec.decode ComponentSpec.toValue c.editor) :
    Restores decode toValue c := by
  have headerName : RestoresOptional asText .string c.headerName :=
    restores_optional (fun s _ => restores_asText s) (by simp)
  have filter : RestoresOptional FilterSpec.decode FilterSpec.toValue c.filter :=
    restores_optional (fun spec _ => spec.restores) fun _ _ h => nomatch h
  have comparator : RestoresOptional Comparator.decode Comparator.toValue c.comparator :=
    restores_optional (fun comparator _ => comparator.restores) fun _ _ h => nomatch h
  have decimal : RestoresOptional DecimalSettings.decode DecimalSettings.toValue c.decimal :=
    restores_optional (fun settings _ => settings.restores) fun _ _ h => nomatch h
  constructor
  · refine Value.sorted_of_names ["cell_class_rules", "comparator", "decimal", "editable", "editor",
      "field", "filter", "header_name", "renderer"] (by decide) rfl ?_
    simp [editable.sorted, cellClassRules.sorted, renderer.sorted, editor.sorted,
      headerName.sorted, filter.sorted, comparator.sorted, decimal.sorted]
  · rw [decode, toValue, structureOf_ofValue,
      takeEntries_once (by decide) cellClassRules fun _ => rfl,
      takeEntries_once (by decide) comparator fun _ => rfl,
      takeEntries_once (by decide) decimal fun _ => rfl,
      takeEntries_once (by decide) editable fun _ => rfl,
      takeEntries_once (by decide) editor fun _ => rfl,
      takeEntries_once (by decide) (restores_asText c.field) fun _ => rfl,
      takeEntries_once (by decide) filter fun _ => rfl,
      takeEntries_once (by decide) headerName fun _ => rfl,
      takeEntries_once (by decide) renderer fun _ => rfl]
    rfl

/-- A column that is read from a typed document is read back from what it is written as. -/
theorem stable_decode : Stable decode toValue := by
  intro d c hd h
  unfold decode at h
  split at h
  · cases h
  · rename_i t ht
    have hstart : Draft.start.Restorable := by constructor <;> exact fun _ h => nomatch h
    have hdraft := structureOf_preserves Draft.Restorable.take hd hstart ht
    obtain ⟨field, -, rfl⟩ := exists_of_map_eq_ok h
    exact restores (restores_getD hdraft.editable Slot.restores_unset)
      (restores_getD hdraft.cellClassRules ClassRules.restores_empty)
      (restores_getD hdraft.renderer restores_none) (restores_getD hdraft.editor restores_none)

end Column

end GridRules
