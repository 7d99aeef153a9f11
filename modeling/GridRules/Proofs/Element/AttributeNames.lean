import GridRules.Proofs.Dictionary
import GridRules.Proofs.Element.HostCopy
import GridRules.Proofs.Text.Lowercase

/-!
# The property of an attribute name

Attribute names come in any case.  A name has a property exactly when its lower-case form is
observed, and then it is the last of the observed properties with that form
(`Element.propertyName?_eq_some_iff`): what a map from the forms to the properties holds when each
property is set in it in turn (`Element.propertyName?_eq_get?`).  The names that are observed are
names with a property themselves, as their lower-case form is their own.
-/

namespace GridRules

namespace Element

variable {e : Element} {name property : String}

lemma mem_observedAttributes_iff :
    name ∈ e.observedAttributes ↔ ∃ p ∈ e.observed, Text.lowercase p = name :=
  List.mem_map

/-- A name has a property exactly when its lower-case form is observed. -/
lemma isSome_propertyName?_iff :
    (e.propertyName? name).isSome = true ↔ Text.lowercase name ∈ e.observedAttributes := by
  simp [propertyName?, mem_observedAttributes_iff]

/-- The property of a name is the last one with its lower-case form. -/
lemma propertyName?_eq_some_iff : e.propertyName? name = some property ↔
    ∃ before after, e.observed = before ++ property :: after
      ∧ Text.lowercase property = Text.lowercase name
      ∧ ∀ p ∈ after, Text.lowercase p ≠ Text.lowercase name := by
  rw [propertyName?, List.find?_eq_some_iff_append]
  constructor
  · rintro ⟨hsame, later, earlier, hreverse, hlater⟩
    refine ⟨earlier.reverse, later.reverse, ?_, by simpa using hsame, fun p hp => ?_⟩
    · rw [← e.observed.reverse_reverse, hreverse]
      simp
    · simpa using hlater p (List.mem_reverse.1 hp)
  · rintro ⟨before, after, hobserved, hsame, hafter⟩
    refine ⟨by simpa using hsame, after.reverse, before.reverse, ?_, fun p hp => ?_⟩
    · rw [hobserved]
      simp
    · simpa using hafter p (List.mem_reverse.1 hp)

lemma lookup_map_eq_find? (key : String → String) (properties : List String) :
    (properties.map fun p => (key p, p)).lookup name = properties.find? fun p => key p == name := by
  induction properties with
  | nil => rfl
  | cons p r ih =>
    rw [List.map_cons, lookup_entry, ih, List.find?_cons]
    by_cases h : key p = name
    · simp [h]
    · simp [beq_false_of_ne h, Ne.symm h]

/-- The property of a name is what the map from lower-case forms to properties holds, each property
set in turn. -/
lemma propertyName?_eq_get? : e.propertyName? name =
    (Dictionary.ofList (e.observed.map fun p => (Text.lowercase p, p))).get?
      (Text.lowercase name) := by
  rw [Dictionary.get?, Dictionary.ofList, lookup_sortEntries, ← List.map_reverse,
    lookup_map_eq_find?]
  rfl

lemma propertyName?_congr {other : String} (h : Text.lowercase name = Text.lowercase other) :
    e.propertyName? name = e.propertyName? other := by
  rw [propertyName?, propertyName?, h]

/-- A name that is observed has a property, and is its lower-case form. -/
lemma exists_propertyName?_of_mem_observedAttributes (h : name ∈ e.observedAttributes) :
    ∃ p ∈ e.observed, e.propertyName? name = some p ∧ Text.lowercase p = name := by
  obtain ⟨q, -, rfl⟩ := mem_observedAttributes_iff.1 h
  have hsome : (e.propertyName? (Text.lowercase q)).isSome = true := by
    rw [isSome_propertyName?_iff, Text.lowercase_lowercase]
    exact h
  obtain ⟨p, hp⟩ := Option.isSome_iff_exists.1 hsome
  obtain ⟨before, after, -, hsame, -⟩ := propertyName?_eq_some_iff.1 hp
  rw [Text.lowercase_lowercase] at hsame
  exact ⟨p, mem_observed_of_propertyName? hp, hp, hsame⟩

lemma gridOptionsProperty_not_mem_observed (properties : List String) :
    gridOptionsProperty ∉ (new properties).observed := by
  have hown : gridOptionsProperty ∉ elementProperties := by decide
  simp [new, hown]

end Element

/-- Whatever properties a grid has and whatever was called, a name has a property exactly when its
lower-case form is observed: the last observed property of that form, as a map from the forms to
the properties holds it.  Every name that is observed has a property, those of the element are
hidden by no other spelling, and the options of the grid are never observed. -/
theorem attribute_names_resolve_in_any_case (properties : List String) (calls : List ElementCall) :
    let e := (Session.run properties calls).element
    e.observed = properties.filter (· ≠ gridOptionsProperty) ++ elementProperties ∧
    gridOptionsProperty ∉ e.observed ∧
    (∀ name,
      ((e.propertyName? name).isSome = true ↔ Text.lowercase name ∈ e.observedAttributes) ∧
      (∀ property, e.propertyName? name = some property ↔
        ∃ before after, e.observed = before ++ property :: after
          ∧ Text.lowercase property = Text.lowercase name
          ∧ ∀ p ∈ after, Text.lowercase p ≠ Text.lowercase name) ∧
      e.propertyName? name =
        (Dictionary.ofList (e.observed.map fun p => (Text.lowercase p, p))).get?
          (Text.lowercase name)) ∧
    (∀ name ∈ e.observedAttributes,
      ∃ property ∈ e.observed, e.propertyName? name = some property
        ∧ Text.lowercase property = name) ∧
    (∀ property ∈ elementProperties, property ∈ e.observed ∧
      ∀ name, Text.lowercase name = Text.lowercase property →
        e.propertyName? name = some property) := by
  intro e
  have hobserved : e.observed = (Element.new properties).observed :=
    (Session.sound_run properties calls).observed
  refine ⟨hobserved, ?_, fun name => ?_, ?_, fun property hproperty => ⟨?_, ?_⟩⟩
  · rw [hobserved]
    exact Element.gridOptionsProperty_not_mem_observed properties
  · exact ⟨Element.isSome_propertyName?_iff, fun _ => Element.propertyName?_eq_some_iff,
      Element.propertyName?_eq_get?⟩
  · intro name hname
    exact Element.exists_propertyName?_of_mem_observedAttributes hname
  · rw [hobserved]
    exact List.mem_append_right _ hproperty
  · intro name hname
    rw [Element.propertyName?_congr hname]
    exact Element.propertyName?_elementProperty hobserved hproperty

/-- Of two spellings the last one counts, that of the element hides one of the grid, and other
spellings of the options are observed. -/
theorem attribute_names_of_colliding_spellings :
    let e := (Session.run ["rowData", "ROWDATA", "DISABLERESIZEONSCROLL", "gridOptions",
      "GRIDOPTIONS"] [.initialise]).element
    e.propertyName? "RowData" = some "ROWDATA" ∧
    e.propertyName? "DISABLERESIZEONSCROLL" = some disableResizeProperty ∧
    e.propertyName? "gridOptions" = some "GRIDOPTIONS" ∧
    e.propertyName? "columnDefs" = none := by
  intro e
  obtain ⟨hobserved, -, hname, -, helement⟩ := attribute_names_resolve_in_any_case
    ["rowData", "ROWDATA", "DISABLERESIZEONSCROLL", "gridOptions", "GRIDOPTIONS"] [.initialise]
  refine ⟨?_, ?_, ?_, ?_⟩
  · refine ((hname "RowData").2.1 "ROWDATA").2 ⟨["rowData"],
      ["DISABLERESIZEONSCROLL", "GRIDOPTIONS"] ++ elementProperties, ?_, ?_, ?_⟩
    · rw [hobserved]
      decide
    · decide +kernel
    · decide +kernel
  · exact (helement disableResizeProperty (by decide)).2 _ (by decide +kernel)
  · refine ((hname "gridOptions").2.1 "GRIDOPTIONS").2
      ⟨["rowData", "ROWDATA", "DISABLERESIZEONSCROLL"], elementProperties, ?_, ?_, ?_⟩
    · rw [hobserved]
      decide
    · decide +kernel
    · decide +kernel
  · have hmissing := (hname "columnDefs").1.not.2 (by decide +kernel)
    simpa using hmissing

end GridRules
