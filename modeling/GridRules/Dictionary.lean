/-!
# Dictionaries

A finite map from names to values, kept as its entries in ascending order of the names. The order of
names is that of their code points, which is also the order of their UTF-8 bytes.

`insertEntry` works on plain entry lists, because the objects of a JSON value are such lists;
`Dictionary` adds the proof that the names ascend. The main statements are the look-ups after an
insertion, `lookup_insertEntry` and `Dictionary.get?_insert`.
-/

namespace GridRules

/-- Sets the entry of a name: an entry of that name is replaced, otherwise the new one goes before
the first entry with a greater name. -/
def insertEntry {α : Type} (name : String) (value : α) : List (String × α) → List (String × α)
  | [] => [(name, value)]
  | (n, v) :: r =>
    if name = n then (name, value) :: r
    else if name < n then (name, value) :: (n, v) :: r
    else (n, v) :: insertEntry name value r

/-- The entries of a list of pairs in ascending order; of two pairs with one name the
later counts. -/
def sortEntries {α : Type} (pairs : List (String × α)) : List (String × α) :=
  pairs.foldl (fun entries pair => insertEntry pair.1 pair.2 entries) []

/-- The names of the entries ascend strictly. -/
def Ascending {α : Type} (entries : List (String × α)) : Prop :=
  entries.Pairwise fun a b => a.1 < b.1

theorem lookup_entry {α : Type} (name n : String) (v : α) (r : List (String × α)) :
    ((n, v) :: r).lookup name = if name = n then some v else r.lookup name := by
  by_cases h : name = n <;> simp [List.lookup_cons, h, beq_false_of_ne]

theorem lookup_insertEntry {α : Type} (name other : String) (value : α)
    (entries : List (String × α)) :
    (insertEntry name value entries).lookup other
      = if other = name then some value else entries.lookup other := by
  induction entries with
  | nil => simp [insertEntry, lookup_entry]
  | cons e r ih =>
    obtain ⟨n, v⟩ := e
    unfold insertEntry
    split
    · rename_i hn
      subst hn
      by_cases h : other = name <;> simp [lookup_entry, h]
    · split
      · simp [lookup_entry]
      · rename_i hn _
        by_cases h : other = n
        · subst h
          simp [Ne.symm hn]
        · simp [lookup_entry, h, ih]

theorem mem_insertEntry {α : Type} {name : String} {value : α} {entries : List (String × α)}
    {e : String × α} (h : e ∈ insertEntry name value entries) :
    e = (name, value) ∨ e ∈ entries := by
  induction entries with
  | nil => simpa [insertEntry] using h
  | cons x r ih =>
    obtain ⟨n, v⟩ := x
    unfold insertEntry at h
    split at h
    · rcases List.mem_cons.1 h with h | h <;> simp [h]
    · split at h
      · rcases List.mem_cons.1 h with h | h <;> simp [h]
      · rcases List.mem_cons.1 h with h | h
        · simp [h]
        · rcases ih h with h | h <;> simp [h]

theorem ascending_insertEntry {α : Type} {name : String} {value : α} {entries : List (String × α)}
    (h : Ascending entries) : Ascending (insertEntry name value entries) := by
  induction entries with
  | nil => simp [insertEntry, Ascending]
  | cons x r ih =>
    obtain ⟨n, v⟩ := x
    obtain ⟨hx, hr⟩ := List.pairwise_cons.1 h
    unfold insertEntry
    split
    · rename_i hn
      subst hn
      exact List.pairwise_cons.2 ⟨hx, hr⟩
    · rename_i hn
      split
      · rename_i hlt
        refine List.pairwise_cons.2 ⟨fun e he => ?_, h⟩
        rcases List.mem_cons.1 he with rfl | he
        · exact hlt
        · exact String.lt_trans hlt (hx e he)
      · rename_i hlt
        refine List.pairwise_cons.2 ⟨fun e he => ?_, ih hr⟩
        rcases mem_insertEntry he with rfl | he
        · exact Std.lt_of_le_of_ne (String.not_lt.1 hlt) (Ne.symm hn)
        · exact hx e he

theorem ascending_sortEntries {α : Type} (pairs : List (String × α)) :
    Ascending (sortEntries pairs) := by
  unfold sortEntries
  suffices ∀ entries : List (String × α), Ascending entries →
      Ascending (pairs.foldl (fun entries pair => insertEntry pair.1 pair.2 entries) entries) from
    this [] List.Pairwise.nil
  induction pairs with
  | nil => exact fun _ h => h
  | cons p r ih => exact fun _ h => ih _ (ascending_insertEntry h)

/-- A finite map from names to values. -/
structure Dictionary (α : Type) where
  /-- The entries in ascending order of their names. -/
  entries : List (String × α)
  /-- No name occurs twice and the names ascend. -/
  ascending : Ascending entries

namespace Dictionary

variable {α : Type}

instance [DecidableEq α] : DecidableEq (Dictionary α) := fun a b =>
  decidable_of_iff (a.entries = b.entries) (by cases a; cases b; simp)

/-- The map without entries. -/
def empty : Dictionary α := ⟨[], List.Pairwise.nil⟩

instance : Inhabited (Dictionary α) := ⟨empty⟩

/-- The value of a name. -/
def get? (d : Dictionary α) (name : String) : Option α := d.entries.lookup name

/-- Whether a name has a value. -/
def contains (d : Dictionary α) (name : String) : Bool := (d.get? name).isSome

/-- Sets the value of a name. -/
def insert (d : Dictionary α) (name : String) (value : α) : Dictionary α :=
  ⟨insertEntry name value d.entries, ascending_insertEntry d.ascending⟩

/-- The map of a list of pairs; of two pairs with one name the later counts. -/
def ofList (pairs : List (String × α)) : Dictionary α :=
  ⟨sortEntries pairs, ascending_sortEntries pairs⟩

/-- The names in ascending order. -/
def keys (d : Dictionary α) : List String := d.entries.map (·.1)

/-- The number of entries. -/
def size (d : Dictionary α) : Nat := d.entries.length

/-- Whether there is no entry. -/
def isEmpty (d : Dictionary α) : Bool := d.entries.isEmpty

@[ext] theorem ext {a b : Dictionary α} (h : a.entries = b.entries) : a = b := by
  cases a; cases b; simp_all

@[simp] theorem get?_empty (name : String) : (empty : Dictionary α).get? name = none := rfl

@[simp] theorem get?_insert (d : Dictionary α) (name other : String) (value : α) :
    (d.insert name value).get? other = if other = name then some value else d.get? other :=
  lookup_insertEntry name other value d.entries

end Dictionary

end GridRules
