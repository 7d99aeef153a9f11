import GridRules.Proofs.Document.Values

/-!
# Round trips

What is written as a value can be read back from the document of the value.  For a single thing that
is `Restores`; a decoder is stable (`Stable`) when this holds of whatever it reads from a typed
document.

Both are carried from parts to wholes.  Optional values, lists and dictionaries have a lemma for
each.  A structure is taken back field by field (`takeEntries_once`); that its fields can be taken
back is an invariant of the draft while the structure is read, which needs to be shown for a single
field only (`structureOf_preserves`).
-/

namespace GridRules

variable {α β σ : Type}

lemma exists_of_map_eq_ok {f : α → β} {r : Except ReadError α} {b : β} (h : r.map f = .ok b) :
    ∃ a, r = .ok a ∧ b = f a := by
  cases r with
  | error e => cases h
  | ok a => exact ⟨a, rfl, (Except.ok.inj h).symm⟩

namespace Value

lemma sorted_ofOption {toValue : α → Value} {o : Option α} (h : ∀ a ∈ o, (toValue a).Sorted) :
    (ofOption toValue o).Sorted := by
  cases o with
  | none => exact .null
  | some a => exact h a rfl

end Value

namespace Document

variable {decoder : Document → Except ReadError α} {toValue : α → Value}

/-- What is written as a sorted value is read back from its document. -/
structure Restores (decoder : Document → Except ReadError α) (toValue : α → Value) (a : α) :
    Prop where
  /-- The value is sorted. -/
  sorted : (toValue a).Sorted
  /-- The document of the value is read as it was. -/
  decoded : decoder (ofValue (toValue a)) = .ok a

/-- Whatever is read from a typed document can be read back from what it is written as. -/
def Stable (decoder : Document → Except ReadError α) (toValue : α → Value) : Prop :=
  ∀ ⦃d a⦄, d.Typed → decoder d = .ok a → Restores decoder toValue a

/-! ## Texts, numbers and values -/

lemma restores_asText (s : String) : Restores asText .string s := ⟨.string s, rfl⟩

lemma restores_asCount (n : UInt64) :
    Restores asCount (fun n => Value.ofNat n.toNat n.toNat_lt) n where
  sorted := .number _
  decoded := by simp [Value.ofNat, ofValue, asCount]

lemma stable_toValue : Stable Document.toValue id := by
  intro d v hd hv
  have hsorted : v.Sorted := sorted_of_toValue hd hv
  exact ⟨hsorted, toValue_ofValue hsorted⟩

/-! ## Optional values -/

/-- An optional thing is restored, null standing for its absence. -/
abbrev RestoresOptional (decoder : Document → Except ReadError α) (toValue : α → Value)
    (o : Option α) : Prop := Restores (optional decoder) (Value.ofOption toValue) o

lemma restores_optional {o : Option α} (h : ∀ a ∈ o, Restores decoder toValue a)
    (hnull : ∀ a ∈ o, toValue a ≠ .null) :
    RestoresOptional decoder toValue o := by
  refine ⟨Value.sorted_ofOption fun a ha => (h a ha).sorted, ?_⟩
  cases o with
  | none => rfl
  | some a =>
    have hsome : ¬ (ofValue (toValue a)).isNull = true := by
      rw [isNull_ofValue]
      exact hnull a rfl
    rw [Value.ofOption, optional, if_neg hsome, (h a rfl).decoded]
    rfl

lemma restores_none : RestoresOptional decoder toValue none := ⟨.null, rfl⟩

/-- A field that may be left out is restored when its default is. -/
lemma restores_getD {o : Option α} {default : α} (h : ∀ a ∈ o, Restores decoder toValue a)
    (hdefault : Restores decoder toValue default) : Restores decoder toValue (o.getD default) := by
  cases o with
  | none => exact hdefault
  | some a => exact h a rfl

lemma Stable.optional (h : Stable decoder toValue)
    (hnull : ∀ ⦃d a⦄, d.Typed → d.isNull = false → decoder d = .ok a → toValue a ≠ .null) :
    Stable (optional decoder) (Value.ofOption toValue) := by
  intro d o hd ho
  unfold Document.optional at ho
  split at ho
  · obtain rfl := Except.ok.inj ho
    exact restores_none
  · rename_i hn
    obtain ⟨a, ha, rfl⟩ := exists_of_map_eq_ok ho
    have hsome := hnull hd (Bool.eq_false_iff.2 hn) ha
    exact restores_optional (fun _ hb => Option.mem_some.1 hb ▸ h hd ha)
      fun _ hb => Option.mem_some.1 hb ▸ hsome

/-! ## Lists and dictionaries -/

lemma mem_of_each {γ : Type} {decode : γ → Except ReadError β} {items : List γ} {l : List β}
    (h : each decode items = .ok l) {b : β} (hb : b ∈ l) : ∃ d ∈ items, decode d = .ok b := by
  induction items generalizing l with
  | nil =>
    obtain rfl := Except.ok.inj h
    cases hb
  | cons d r ih =>
    rw [each] at h
    cases hd : decode d with
    | error e => simp [hd] at h
    | ok b' =>
      rw [hd] at h
      obtain ⟨rest, hrest, rfl⟩ := exists_of_map_eq_ok h
      rcases List.mem_cons.1 hb with rfl | hb
      · exact ⟨d, List.mem_cons_self, hd⟩
      · obtain ⟨d', hd', hdec⟩ := ih hrest hb
        exact ⟨d', List.mem_cons_of_mem _ hd', hdec⟩

lemma restores_listOf {l : List α} (h : ∀ a ∈ l, Restores decoder toValue a) :
    Restores (listOf decoder) (fun l => .array (l.map toValue)) l where
  sorted := by
    refine .array fun v hv => ?_
    obtain ⟨a, ha, rfl⟩ := List.mem_map.1 hv
    exact (h a ha).sorted
  decoded := by
    change each decoder (ofItems (l.map toValue)) = .ok l
    induction l with
    | nil => rfl
    | cons a r ih =>
      obtain ⟨ha, hr⟩ := List.forall_mem_cons.1 h
      rw [List.map_cons, ofItems, each, ha.decoded, ih hr]
      rfl

lemma Stable.listOf (h : Stable decoder toValue) :
    Stable (listOf decoder) fun l => .array (l.map toValue) := by
  intro d l hd hl
  unfold Document.listOf at hl
  rw [hd.untag] at hl
  split at hl
  · refine restores_listOf fun a ha => ?_
    obtain ⟨d, hmem, hdec⟩ := mem_of_each hl ha
    exact h (typed_list_iff.1 hd d hmem) hdec
  · rw [hd.isVoid] at hl
    cases hl

lemma each_entry_ofFields {entries : List (String × α)}
    (h : ∀ e ∈ entries, Restores decoder toValue e.2) :
    each (entry decoder) (ofFields (entries.map fun e => (e.1, toValue e.2))) = .ok entries := by
  induction entries with
  | nil => rfl
  | cons e r ih =>
    obtain ⟨he, hr⟩ := List.forall_mem_cons.1 h
    rw [List.map_cons, ofFields, each, entry, asText]
    simp only [he.decoded, ih hr, Except.map]

lemma restores_dictionaryOf {dictionary : Dictionary α}
    (h : ∀ e ∈ dictionary.entries, Restores decoder toValue e.2) :
    Restores (dictionaryOf decoder)
      (fun dictionary => .object (dictionary.entries.map fun e => (e.1, toValue e.2)))
      dictionary where
  sorted := by
    refine .object ?_ fun e he => ?_
    · exact List.pairwise_map.2 dictionary.ascending
    · obtain ⟨e, hmem, rfl⟩ := List.mem_map.1 he
      exact (h e hmem).sorted
  decoded := by
    change (each (entry decoder) _).map Dictionary.ofList = _
    rw [each_entry_ofFields h]
    exact congrArg Except.ok (Dictionary.ext (sortEntries_of_ascending dictionary.ascending))

lemma Stable.dictionaryOf (h : Stable decoder toValue) :
    Stable (dictionaryOf decoder)
      fun dictionary => .object (dictionary.entries.map fun e => (e.1, toValue e.2)) := by
  intro d dictionary hd hl
  unfold Document.dictionaryOf at hl
  rw [hd.untag] at hl
  split at hl
  · rename_i entries
    obtain ⟨pairs, hpairs, rfl⟩ := exists_of_map_eq_ok hl
    refine restores_dictionaryOf fun e he => ?_
    -- of two entries with one name only the later is kept, but every entry that is kept was read
    obtain ⟨d, hmem, hdec⟩ := mem_of_each hpairs (mem_of_mem_sortEntries he)
    unfold entry at hdec
    split at hdec
    · cases hdec
    · obtain ⟨a, ha, rfl⟩ := exists_of_map_eq_ok hdec
      exact h (typed_table_iff.1 hd d hmem).2 ha
  · rw [hd.isVoid] at hl
    cases hl

/-! ## Structures -/

lemma once_map_eq_ok {old : Option α} {d : Document} {update : Option α → σ} {draft : σ}
    (h : (once old decoder d).map update = .ok draft) :
    ∃ a, decoder d = .ok a ∧ draft = update (some a) := by
  obtain ⟨o, ho, rfl⟩ := exists_of_map_eq_ok h
  unfold once at ho
  split at ho
  · cases ho
  · obtain ⟨a, ha, rfl⟩ := exists_of_map_eq_ok ho
    exact ⟨a, ha, rfl⟩

lemma required_eq_ok {o : Option α} {a : α} (h : required o = .ok a) : o = some a := by
  cases o with
  | none => cases h
  | some b => exact congrArg some (Except.ok.inj h)

variable {names : List String} {take : σ → String → Document → Except ReadError σ}

lemma structureOf_ofValue (least : Nat) (start : σ) (fields : List (String × Value)) :
    structureOf names least start take (ofValue (.object fields))
      = takeEntries names take start (ofFields fields) := rfl

/-- A field that was not there yet is taken back from what it is written as. -/
lemma takeEntries_once {draft : σ} {update : Option α → σ} {name : String} {a : α}
    {fields : List (String × Value)} (known : name ∈ names) (h : Restores decoder toValue a)
    (htake : ∀ d, take draft name d = (once none decoder d).map update) :
    takeEntries names take draft (ofFields ((name, toValue a) :: fields))
      = takeEntries names take (update (some a)) (ofFields fields) := by
  have hname : take draft name (ofValue (toValue a)) = .ok (update (some a)) := by
    rw [htake, once, h.decoded]
    rfl
  rw [ofFields, takeEntries, asText]
  simp only [if_pos known, hname]

/-- What every field keeps, the entries of a mapping keep. -/
lemma takeEntries_preserves {P : σ → Prop}
    (step : ∀ ⦃draft name d draft'⦄, P draft → d.Typed → take draft name d = .ok draft' → P draft')
    {entries : List (Document × Document)} (hentries : ∀ e ∈ entries, e.1.Typed ∧ e.2.Typed)
    {draft draft' : σ} (hdraft : P draft)
    (h : takeEntries names take draft entries = .ok draft') : P draft' := by
  induction entries generalizing draft with
  | nil =>
    obtain rfl := Except.ok.inj h
    exact hdraft
  | cons e r ih =>
    obtain ⟨k, d⟩ := e
    obtain ⟨he, hr⟩ := List.forall_mem_cons.1 hentries
    rw [takeEntries] at h
    split at h
    · cases h
    · split at h
      · split at h
        · cases h
        · rename_i htake
          exact ih hr (step hdraft he.2 htake) h
      · split at h
        · cases h
        · exact ih hr hdraft h

/-- What every field keeps, the items of a list keep. -/
lemma takeItems_preserves {P : σ → Prop}
    (step : ∀ ⦃draft name d draft'⦄, P draft → d.Typed → take draft name d = .ok draft' → P draft')
    {items : List Document} (hitems : ∀ d ∈ items, d.Typed) {names : List String}
    {draft draft' : σ} (hdraft : P draft) (h : takeItems take draft names items = .ok draft') :
    P draft' := by
  induction items generalizing draft names with
  | nil =>
    rw [takeItems] at h
    obtain rfl := Except.ok.inj h
    exact hdraft
  | cons d r ih =>
    obtain ⟨hd, hr⟩ := List.forall_mem_cons.1 hitems
    cases names with
    | nil =>
      unfold takeItems at h
      split at h <;> cases h
    | cons name names =>
      rw [takeItems] at h
      split at h
      · cases h
      · rename_i htake
        exact ih hr (step hdraft hd htake) h

/-- What every field of a typed structure keeps, the structure keeps, as a mapping and as a list. -/
lemma structureOf_preserves {P : σ → Prop}
    (step : ∀ ⦃draft name d draft'⦄, P draft → d.Typed → take draft name d = .ok draft' → P draft')
    {least : Nat} {start draft : σ} {d : Document} (hd : d.Typed) (hstart : P start)
    (h : structureOf names least start take d = .ok draft) : P draft := by
  unfold structureOf at h
  rw [hd.untag] at h
  split at h
  · exact takeEntries_preserves step (typed_table_iff.1 hd) hstart h
  · split at h
    · cases h
    · rename_i htake
      split at h
      · cases h
      · obtain rfl := Except.ok.inj h
        exact takeItems_preserves step (typed_list_iff.1 hd) hstart htake
  · rw [hd.isVoid] at h
    cases h

end Document

end GridRules
