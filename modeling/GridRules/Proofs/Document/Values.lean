import GridRules.Document.Structure
import GridRules.Proofs.Dictionary

/-!
# Values as documents

A document is typed when it has no open scalars and no tags (`Document.Typed`); the documents of
JSON texts are.  A typed document tells at once whether it is null, while an open scalar can turn
out to be null although it does not stand for an absent value.

A value is sorted when the fields of all its objects ascend (`Value.Sorted`).  Typed documents are
read as sorted values (`Document.sorted_of_toValue`), and sorted values are read back from their own
documents (`Document.toValue_ofValue`).
-/

namespace GridRules

/-! ## Sorted values -/

/-- The fields of all objects in a value ascend by name. -/
inductive Value.Sorted : Value → Prop
  /-- Null has no fields. -/
  | null : Sorted .null
  /-- A truth value has no fields. -/
  | bool (b : Bool) : Sorted (.bool b)
  /-- A number has no fields. -/
  | number (n : Number) : Sorted (.number n)
  /-- A text has no fields. -/
  | string (s : String) : Sorted (.string s)
  /-- The items of a list are sorted. -/
  | array {items : List Value} (h : ∀ v ∈ items, Sorted v) : Sorted (.array items)
  /-- The fields of an object ascend and their values are sorted. -/
  | object {fields : List (String × Value)} (ascending : Ascending fields)
      (h : ∀ e ∈ fields, Sorted e.2) : Sorted (.object fields)

attribute [simp] Value.Sorted.null Value.Sorted.bool Value.Sorted.number Value.Sorted.string

lemma Value.Sorted.of_lookup {fields : List (String × Value)} {name : String} {v : Value}
    (h : Sorted (.object fields)) (hv : fields.lookup name = some v) : v.Sorted := by
  obtain ⟨before, after, rfl, -⟩ := List.lookup_eq_some_iff.1 hv
  cases h with
  | object _ h => exact h (name, v) (by simp)

/-- An object with names that ascend is sorted when the values of its fields are. -/
lemma Value.sorted_of_names {fields : List (String × Value)} (names : List String)
    (ascending : names.Pairwise (· < ·)) (hnames : fields.map (·.1) = names)
    (h : ∀ e ∈ fields, e.2.Sorted) : (object fields).Sorted :=
  .object (List.pairwise_map.1 (hnames ▸ ascending)) h

lemma Value.sorted_ofPairs {pairs : List (String × Value)} (h : ∀ e ∈ pairs, e.2.Sorted) :
    (ofPairs pairs).Sorted :=
  .object (ascending_sortEntries pairs) fun e he => h e (mem_of_mem_sortEntries he)

/-! ## Typed documents -/

namespace Document

/-- A document without open scalars and without tags. -/
inductive Typed : Document → Prop
  /-- Null. -/
  | null : Typed .null
  /-- A truth value. -/
  | bool (b : Bool) : Typed (.bool b)
  /-- A number. -/
  | number (n : Number) : Typed (.number n)
  /-- A text. -/
  | text (s : String) : Typed (.text s)
  /-- A list of typed documents. -/
  | list {items : List Document} (h : ∀ d ∈ items, Typed d) : Typed (.list items)
  /-- A mapping between typed documents. -/
  | table {entries : List (Document × Document)} (names : ∀ e ∈ entries, Typed e.1)
      (h : ∀ e ∈ entries, Typed e.2) : Typed (.table entries)
  /-- A typed part that cannot be read. -/
  | suspect (reason : ReadError) {node : Document} (h : Typed node) : Typed (.suspect reason node)
  /-- The end of what could be followed. -/
  | cut (reason : ReadError) : Typed (.cut reason)

lemma typed_list_iff {items : List Document} : (list items).Typed ↔ ∀ d ∈ items, d.Typed := by
  constructor
  · intro h
    cases h with
    | list h => exact h
  · exact .list

lemma typed_table_iff {entries : List (Document × Document)} :
    (table entries).Typed ↔ ∀ e ∈ entries, e.1.Typed ∧ e.2.Typed := by
  constructor
  · intro h
    cases h with
    | table names h => exact fun e he => ⟨names e he, h e he⟩
  · exact fun h => .table (fun e he => (h e he).1) fun e he => (h e he).2

lemma Typed.untag {d : Document} (h : d.Typed) : d.untag = d := by
  cases h <;> rfl

lemma Typed.isVoid {d : Document} (h : d.Typed) : d.isVoid = false := by
  cases h <;> rfl

/-- Only a null is read from a typed document as null. -/
lemma Typed.isNull_of_toValue {d : Document} (hd : d.Typed) (h : d.toValue = .ok .null) :
    d.isNull = true := by
  cases hd with
  | null => rfl
  | list hitems =>
    rename_i items
    rw [toValue] at h
    cases hvalues : itemValues items <;> simp [hvalues, Except.map] at h
  | table hnames hentries =>
    rename_i entries
    rw [toValue] at h
    cases hvalues : entryValues entries <;> simp [hvalues, Except.map, Value.ofPairs] at h
  | _ => nomatch h

lemma isNull_ofValue {v : Value} : (ofValue v).isNull = true ↔ v = .null := by
  cases v <;> simp [ofValue, isNull]

mutual

theorem typed_ofValue : ∀ v : Value, (ofValue v).Typed
  | .null => .null
  | .bool b => .bool b
  | .number n => .number n
  | .string s => .text s
  | .array items => .list (typed_ofItems items)
  | .object fields => typed_table_iff.2 (typed_ofFields fields)

theorem typed_ofItems : ∀ items : List Value, ∀ d ∈ ofItems items, d.Typed
  | [] => by simp [ofItems]
  | v :: r => List.forall_mem_cons.2 ⟨typed_ofValue v, typed_ofItems r⟩

theorem typed_ofFields :
    ∀ fields : List (String × Value), ∀ e ∈ ofFields fields, e.1.Typed ∧ e.2.Typed
  | [] => by simp [ofFields]
  | (n, v) :: r => List.forall_mem_cons.2 ⟨⟨.text n, typed_ofValue v⟩, typed_ofFields r⟩

end

mutual

/-- A sorted value is read back from its document. -/
theorem toValue_ofValue : ∀ {v : Value}, v.Sorted → (ofValue v).toValue = .ok v
  | .null, _ => rfl
  | .bool _, _ => rfl
  | .number _, _ => rfl
  | .string _, _ => rfl
  | .array items, .array h => by
    rw [ofValue, toValue, itemValues_ofItems h]
    rfl
  | .object fields, .object ascending h => by
    rw [ofValue, toValue, entryValues_ofFields h]
    exact congrArg (Except.ok ∘ Value.object) (sortEntries_of_ascending ascending)

theorem itemValues_ofItems : ∀ {items : List Value}, (∀ v ∈ items, v.Sorted) →
    itemValues (ofItems items) = .ok items
  | [], _ => rfl
  | v :: r, h => by
    obtain ⟨hv, hr⟩ := List.forall_mem_cons.1 h
    rw [ofItems, itemValues, toValue_ofValue hv, itemValues_ofItems hr]
    rfl

theorem entryValues_ofFields : ∀ {fields : List (String × Value)}, (∀ e ∈ fields, e.2.Sorted) →
    entryValues (ofFields fields) = .ok fields
  | [], _ => rfl
  | (n, v) :: r, h => by
    obtain ⟨hv, hr⟩ := List.forall_mem_cons.1 h
    rw [ofFields, entryValues, asText]
    simp only [toValue_ofValue hv, entryValues_ofFields hr]
    rfl

end

mutual

/-- What a typed document is read as is sorted. -/
theorem sorted_of_toValue : ∀ {d : Document} {v : Value}, d.Typed → d.toValue = .ok v → v.Sorted
  | .null, _, _, h => by
    obtain rfl := Except.ok.inj h
    exact .null
  | .bool b, _, _, h => by
    obtain rfl := Except.ok.inj h
    exact .bool b
  | .number n, _, _, h => by
    obtain rfl := Except.ok.inj h
    exact .number n
  | .text s, _, _, h => by
    obtain rfl := Except.ok.inj h
    exact .string s
  | .list items, v, htyped, h => by
    rw [toValue] at h
    cases hitems : itemValues items with
    | error e => simp [hitems, Except.map] at h
    | ok values =>
      obtain rfl : .array values = v := by simpa [hitems, Except.map] using h
      exact .array (sorted_of_itemValues (typed_list_iff.1 htyped) hitems)
  | .table entries, v, htyped, h => by
    rw [toValue] at h
    cases hentries : entryValues entries with
    | error e => simp [hentries, Except.map] at h
    | ok pairs =>
      obtain rfl : .ofPairs pairs = v := by simpa [hentries, Except.map] using h
      exact Value.sorted_ofPairs (sorted_of_entryValues (typed_table_iff.1 htyped) hentries)
  | .suspect _ _, _, _, h => nomatch h
  | .cut _, _, _, h => nomatch h

theorem sorted_of_itemValues : ∀ {items : List Document} {values : List Value},
    (∀ d ∈ items, d.Typed) → itemValues items = .ok values → ∀ v ∈ values, v.Sorted
  | [], _, _, h => by
    obtain rfl := Except.ok.inj h
    simp
  | d :: r, values, htyped, h => by
    obtain ⟨hd, hr⟩ := List.forall_mem_cons.1 htyped
    rw [itemValues] at h
    cases hv : toValue d with
    | error e => simp [hv] at h
    | ok v =>
      cases hrest : itemValues r with
      | error e => simp [hv, hrest, Except.map] at h
      | ok rest =>
        obtain rfl : v :: rest = values := by simpa [hv, hrest, Except.map] using h
        exact List.forall_mem_cons.2 ⟨sorted_of_toValue hd hv, sorted_of_itemValues hr hrest⟩

theorem sorted_of_entryValues : ∀ {entries : List (Document × Document)}
    {pairs : List (String × Value)}, (∀ e ∈ entries, e.1.Typed ∧ e.2.Typed) →
    entryValues entries = .ok pairs → ∀ e ∈ pairs, e.2.Sorted
  | [], _, _, h => by
    obtain rfl := Except.ok.inj h
    simp
  | (k, d) :: r, pairs, htyped, h => by
    obtain ⟨hd, hr⟩ := List.forall_mem_cons.1 htyped
    rw [entryValues] at h
    cases hname : asText k with
    | error e => simp [hname] at h
    | ok name =>
      cases hv : toValue d with
      | error e => simp [hname, hv] at h
      | ok v =>
        cases hrest : entryValues r with
        | error e => simp [hname, hv, hrest, Except.map] at h
        | ok rest =>
          obtain rfl : (name, v) :: rest = pairs := by
            simpa [hname, hv, hrest, Except.map] using h
          exact List.forall_mem_cons.2
            ⟨sorted_of_toValue hd.2 hv, sorted_of_entryValues hr hrest⟩

end

end Document

end GridRules
