import GridRules.Dictionary
import Mathlib.Data.List.Induction
import Mathlib.Data.List.Nodup
import Mathlib.Tactic.Lemma

/-!
# Entries and names

Entries that ascend are left as they are when they are sorted (`sortEntries_of_ascending`).  Their
names are distinct, so a value is found under a name exactly when the two are an entry
(`Dictionary.get?_eq_some_iff`).  To change a value is to change what is found under its name, and
nothing else (`Dictionary.get?_modify`).
-/

namespace GridRules

/-! ## Entries in order -/

lemma insertEntry_of_forall_lt {α : Type} {name : String} {value : α} {entries : List (String × α)}
    (h : ∀ e ∈ entries, e.1 < name) :
    insertEntry name value entries = entries ++ [(name, value)] := by
  induction entries with
  | nil => rfl
  | cons e r ih =>
    obtain ⟨n, v⟩ := e
    have hn : n < name := h (n, v) List.mem_cons_self
    have hne : ¬ name = n := fun heq => String.lt_irrefl n (heq ▸ hn)
    have hlt : ¬ name < n := String.lt_asymm hn
    rw [insertEntry, if_neg hne, if_neg hlt, ih fun e he => h e (List.mem_cons_of_mem _ he)]
    rfl

/-- Entries that ascend are in order already. -/
theorem sortEntries_of_ascending {α : Type} {entries : List (String × α)} (h : Ascending entries) :
    sortEntries entries = entries := by
  -- the entries that are done come before the others
  suffices hfold : ∀ done rest : List (String × α), Ascending (done ++ rest) →
      rest.foldl (fun es pair => insertEntry pair.1 pair.2 es) done = done ++ rest from
    hfold [] entries h
  intro done rest
  induction rest generalizing done with
  | nil =>
    intro _
    rw [List.foldl_nil, List.append_nil]
  | cons e r ih =>
    intro hall
    have hlt : ∀ x ∈ done, x.1 < e.1 := by
      intro x hx
      exact (List.pairwise_append.1 hall).2.2 x hx e List.mem_cons_self
    have hassoc : done ++ e :: r = (done ++ [e]) ++ r := by simp
    rw [List.foldl_cons, insertEntry_of_forall_lt hlt, hassoc]
    exact ih (done ++ [e]) (hassoc ▸ hall)

lemma mem_of_mem_sortEntries {α : Type} {pairs : List (String × α)} {e : String × α}
    (h : e ∈ sortEntries pairs) : e ∈ pairs := by
  suffices hfold : ∀ done : List (String × α),
      e ∈ pairs.foldl (fun es pair => insertEntry pair.1 pair.2 es) done → e ∈ done ∨ e ∈ pairs from
    (hfold [] h).resolve_left (by simp)
  clear h
  induction pairs with
  | nil => exact fun done h => .inl h
  | cons p r ih =>
    intro done h
    rcases ih _ h with h | h
    · rcases mem_insertEntry h with rfl | h
      · exact .inr List.mem_cons_self
      · exact .inl h
    · exact .inr (List.mem_cons_of_mem _ h)

/-! ## Entries with distinct names -/

section DistinctNames

variable {α : Type} {name : String} {v : α} {entries pairs : List (String × α)}

lemma Ascending.nodup (h : Ascending entries) : (entries.map (·.1)).Nodup :=
  List.pairwise_map.2 (h.imp fun hlt => String.ne_of_lt hlt)

lemma lookup_eq_some_iff_mem (h : (entries.map (·.1)).Nodup) :
    entries.lookup name = some v ↔ (name, v) ∈ entries := by
  induction entries with
  | nil => simp
  | cons e r ih =>
    obtain ⟨n, w⟩ := e
    obtain ⟨hfresh, hr⟩ := List.nodup_cons.1 h
    rw [lookup_entry, List.mem_cons, Prod.mk.injEq]
    by_cases hname : name = n
    · subst hname
      -- the first entry is found, and no other has its name
      have hlater : (name, v) ∉ r := fun hmem => hfresh (List.mem_map.2 ⟨(name, v), hmem, rfl⟩)
      simp [hlater, eq_comm]
    · simp [hname, ih hr]

/-- Of two pairs with one name the later is found. -/
lemma lookup_sortEntries (pairs : List (String × α)) (name : String) :
    (sortEntries pairs).lookup name = pairs.reverse.lookup name := by
  induction pairs using List.reverseRecOn with
  | nil => rfl
  | append_singleton pairs p ih =>
    have hlast : sortEntries (pairs ++ [p]) = insertEntry p.1 p.2 (sortEntries pairs) :=
      List.foldl_append
    rw [hlast, lookup_insertEntry, ih, List.reverse_concat, lookup_entry]

lemma Dictionary.get?_eq_some_iff {d : Dictionary α} :
    d.get? name = some v ↔ (name, v) ∈ d.entries :=
  lookup_eq_some_iff_mem d.ascending.nodup

/-- No pair is lost when pairs with distinct names are collected. -/
lemma Dictionary.get?_ofList_eq_some_iff (h : (pairs.map (·.1)).Nodup) :
    (ofList pairs).get? name = some v ↔ (name, v) ∈ pairs := by
  have hreverse : (pairs.reverse.map (·.1)).Nodup := by
    rw [List.map_reverse]
    exact List.nodup_reverse.2 h
  rw [get?, ofList, lookup_sortEntries, lookup_eq_some_iff_mem hreverse, List.mem_reverse]

lemma Dictionary.mem_keys_iff {d : Dictionary α} :
    name ∈ d.keys ↔ (d.get? name).isSome := by
  rw [Option.isSome_iff_exists, keys, List.mem_map]
  simp only [Dictionary.get?_eq_some_iff]
  constructor
  · rintro ⟨⟨_, v⟩, hmem, rfl⟩
    exact ⟨v, hmem⟩
  · rintro ⟨v, hmem⟩
    exact ⟨_, hmem, rfl⟩

end DistinctNames

/-! ## A value that changes -/

namespace Dictionary

variable {α : Type}

/-- The dictionary with the value of a name changed, if there is one. -/
def modify (d : Dictionary α) (name : String) (f : α → α) : Dictionary α :=
  (d.get? name).elim d fun value => d.insert name (f value)

lemma get?_modify (d : Dictionary α) (name other : String) (f : α → α) :
    (d.modify name f).get? other
      = if other = name then (d.get? name).map f else d.get? other := by
  unfold modify
  cases hname : d.get? name with
  | none =>
    rw [Option.elim_none, Option.map_none, ← hname]
    split
    · rename_i hother
      rw [hother]
    · rfl
  | some value => rw [Option.elim_some, get?_insert, Option.map_some]

end Dictionary

end GridRules
