import GridRules.Json.Reader
import GridRules.Proofs.Document.Values

/-!
# The documents of JSON texts

Whatever a JSON text holds, and wherever it goes wrong, its document is typed: the reader makes no
open scalars and no tags.  The statement is `document_typed`; each part of the reader has one lemma,
and the parts that call each other are done together, by induction on the fuel.
-/

namespace GridRules.Json

/-! ## Words, texts and numbers -/

lemma readWord_typed {d : Document} (hd : d.Typed) (word s : List Char) :
    (readWord d word s).1.Typed := by
  induction word generalizing s with
  | nil => exact hd
  | cons w ws ih =>
    cases s with
    | nil => exact .cut _
    | cons c r =>
      rw [readWord]
      split
      · exact ih r
      · exact .cut _

lemma weigh_typed (whole : Bool) {d : Document} (hd : d.Typed) : (weigh whole d).Typed := by
  cases whole with
  | true => exact hd
  | false => exact .suspect _ hd

lemma readString_typed (whole : Bool) (done : List Char) (fuel : Nat) (s : List Char) :
    (readString whole done fuel s).1.Typed := by
  -- every way through the text ends at its quote, is cut, or goes on with the rest
  fun_induction readString whole done fuel s with
  | case3 whole done fuel rest => exact weigh_typed whole (.text _)
  | _ => first
    | exact weigh_typed _ (.cut _)
    | assumption

lemma readQuoted_typed (otherwise : ReadError) (s : List Char) :
    (readQuoted otherwise s).1.Typed := by
  unfold readQuoted
  split
  · exact readString_typed true [] _ _
  · exact .cut _

lemma numberDocument_typed (n : Option Number) : (numberDocument n).Typed := by
  cases n with
  | some n => exact .number n
  | none => exact .suspect _ .null

lemma readPower_typed (finish : Int → Option Number) (s : List Char) :
    (readPower finish s).1.Typed := by
  unfold readPower
  dsimp only
  split
  · exact .cut _
  · exact numberDocument_typed _

lemma readTail_typed (negative : Bool) (whole fraction s : List Char) :
    (readTail negative whole fraction s).1.Typed := by
  unfold readTail
  dsimp only
  split
  · exact readPower_typed _ _
  · exact readPower_typed _ _
  · exact numberDocument_typed _

lemma readNumber_typed (negative : Bool) (s : List Char) : (readNumber negative s).1.Typed := by
  unfold readNumber
  dsimp only
  split
  · exact .cut _
  · exact .cut _
  · split
    · split
      · exact .cut _
      · exact readTail_typed negative _ _ _
    · exact readTail_typed negative _ _ _

/-! ## Values, lists and mappings -/

lemma nest_typed (depth : Nat) {d : Document} (hd : d.Typed) : (nest depth d).Typed := by
  unfold nest
  split
  · exact .suspect _ hd
  · exact hd

/-- With some fuel, every part of a document is typed. -/
structure PartsTyped (fuel : Nat) : Prop where
  /-- A value. -/
  value (depth : Nat) (s : List Char) : (readValue depth fuel s).1.Typed
  /-- The items of a list. -/
  items (depth : Nat) (first : Bool) (s : List Char) :
    ∀ d ∈ (readItems depth first fuel s).1, d.Typed
  /-- The entries of a mapping. -/
  entries (depth : Nat) (first : Bool) (s : List Char) :
    ∀ e ∈ (readEntries depth first fuel s).1, e.1.Typed ∧ e.2.Typed

variable {fuel : Nat}

lemma PartsTyped.value_succ (ih : PartsTyped fuel) (depth : Nat) (s : List Char) :
    (readValue depth (fuel + 1) s).1.Typed := by
  rw [readValue]
  split
  · exact .cut _
  · exact readWord_typed .null _ _
  · exact readWord_typed (.bool true) _ _
  · exact readWord_typed (.bool false) _ _
  · exact readString_typed true [] _ _
  · exact readNumber_typed true _
  -- lists and mappings are made of parts that are read with less fuel
  · exact nest_typed depth (.list (ih.items _ true _))
  · split
    · exact nest_typed depth (Document.typed_table_iff.2 (ih.entries _ true _))
    · split
      · exact readNumber_typed false _
      · exact .cut _

/-- An item of a list and those that follow it. -/
def itemsFrom (depth fuel : Nat) (s : List Char) : List Document × Option (List Char) :=
  match readValue depth fuel s with
  | (d, none) => ([d], none)
  | (d, some rest) =>
    let (items, rest) := readItems depth false fuel rest
    (d :: items, rest)

lemma readItems_succ (depth : Nat) (first : Bool) (s : List Char) :
    readItems depth first (fuel + 1) s = match skipBlank s with
      | [] => ([.cut .unfinished], none)
      | ']' :: r => ([], some r)
      | c :: r =>
        if first then itemsFrom depth fuel (c :: r)
        else if c = ',' then
          match skipBlank r with
          | [] => ([.cut .unfinished], none)
          | ']' :: _ => ([.cut .malformed], none)
          | r => itemsFrom depth fuel r
        else ([.cut .malformed], none) := by
  rw [readItems]
  rfl

lemma PartsTyped.itemsFrom (ih : PartsTyped fuel) (depth : Nat) (s : List Char) :
    ∀ d ∈ (itemsFrom depth fuel s).1, d.Typed := by
  have hvalue := ih.value depth s
  unfold Json.itemsFrom
  split
  · rename_i d hd
    rw [hd] at hvalue
    exact List.forall_mem_singleton.2 hvalue
  · rename_i d rest hd
    rw [hd] at hvalue
    exact List.forall_mem_cons.2 ⟨hvalue, ih.items depth false rest⟩

lemma PartsTyped.items_succ (ih : PartsTyped fuel) (depth : Nat) (first : Bool) (s : List Char) :
    ∀ d ∈ (readItems depth first (fuel + 1) s).1, d.Typed := by
  have hcut (reason : ReadError) : ∀ d ∈ [Document.cut reason], d.Typed :=
    List.forall_mem_singleton.2 (.cut reason)
  rw [readItems_succ]
  split
  · exact hcut _
  · exact fun _ h => nomatch h
  · split
    · exact ih.itemsFrom depth _
    · split
      · split
        · exact hcut _
        · exact hcut _
        · exact ih.itemsFrom depth _
      · exact hcut _

/-- An entry of a mapping and those that follow it. -/
def entriesFrom (depth fuel : Nat) (s : List Char) :
    List (Document × Document) × Option (List Char) :=
  match readQuoted .malformed s with
  | (k, none) => ([(k, .cut .malformed)], none)
  | (k, some rest) =>
    match skipBlank rest with
    | [] => ([(k, .cut .unfinished)], none)
    | ':' :: r =>
      match readValue depth fuel r with
      | (d, none) => ([(k, d)], none)
      | (d, some rest) =>
        let (entries, rest) := readEntries depth false fuel rest
        ((k, d) :: entries, rest)
    | _ => ([(k, .cut .malformed)], none)

lemma readEntries_succ (depth : Nat) (first : Bool) (s : List Char) :
    readEntries depth first (fuel + 1) s = match skipBlank s with
      | [] => ([(.cut .unfinished, .cut .unfinished)], none)
      | c :: r =>
        if c = '\x7d' then ([], some r)
        else if first then entriesFrom depth fuel (c :: r)
        else if c = ',' then
          match skipBlank r with
          | [] => ([(.cut .unfinished, .cut .unfinished)], none)
          | r => entriesFrom depth fuel r
        else ([(.cut .malformed, .cut .malformed)], none) := by
  rw [readEntries]
  rfl

lemma PartsTyped.entriesFrom (ih : PartsTyped fuel) (depth : Nat) (s : List Char) :
    ∀ e ∈ (entriesFrom depth fuel s).1, e.1.Typed ∧ e.2.Typed := by
  have hname := readQuoted_typed .malformed s
  unfold Json.entriesFrom
  split
  · rename_i k hk
    rw [hk] at hname
    exact List.forall_mem_singleton.2 ⟨hname, .cut _⟩
  · rename_i k rest hk
    rw [hk] at hname
    split
    · exact List.forall_mem_singleton.2 ⟨hname, .cut _⟩
    · rename_i r _
      have hvalue := ih.value depth r
      split
      · rename_i d hd
        rw [hd] at hvalue
        exact List.forall_mem_singleton.2 ⟨hname, hvalue⟩
      · rename_i d rest hd
        rw [hd] at hvalue
        exact List.forall_mem_cons.2 ⟨⟨hname, hvalue⟩, ih.entries depth false rest⟩
    · exact List.forall_mem_singleton.2 ⟨hname, .cut _⟩

lemma PartsTyped.entries_succ (ih : PartsTyped fuel) (depth : Nat) (first : Bool) (s : List Char) :
    ∀ e ∈ (readEntries depth first (fuel + 1) s).1, e.1.Typed ∧ e.2.Typed := by
  have hcut (reason : ReadError) :
      ∀ e ∈ [(Document.cut reason, Document.cut reason)], e.1.Typed ∧ e.2.Typed :=
    List.forall_mem_singleton.2 ⟨.cut reason, .cut reason⟩
  rw [readEntries_succ]
  split
  · exact hcut _
  · split
    · exact fun _ h => nomatch h
    · split
      · exact ih.entriesFrom depth _
      · split
        · split
          · exact hcut _
          · exact ih.entriesFrom depth _
        · exact hcut _

lemma partsTyped (fuel : Nat) : PartsTyped fuel := by
  induction fuel with
  | zero =>
    refine ⟨fun depth s => ?_, fun depth first s => ?_, fun depth first s => ?_⟩
    · exact .cut _
    · exact List.forall_mem_singleton.2 (.cut _)
    · exact List.forall_mem_singleton.2 ⟨.cut _, .cut _⟩
  | succ fuel ih => exact ⟨ih.value_succ, ih.items_succ, ih.entries_succ⟩

/-! ## Documents -/

/-- The document of a text is typed. -/
theorem document_typed (text : String) : (document text).1.Typed := by
  have hvalue := (partsTyped (2 * text.toList.length + 2)).value depthLimit text.toList
  unfold document
  dsimp only
  split
  · rename_i d rest hd
    rw [hd] at hvalue
    exact hvalue
  · rename_i d hd
    rw [hd] at hvalue
    exact hvalue

/-- What a text is decoded as is decoded from a typed document. -/
lemma exists_typed_of_decode {α : Type} {decoder : Document → Except ReadError α} {text : String}
    {a : α} (h : decode decoder text = .ok a) : ∃ d : Document, d.Typed ∧ decoder d = .ok a := by
  refine ⟨(document text).1, document_typed text, ?_⟩
  unfold decode at h
  dsimp only at h
  cases hd : decoder (document text).1 with
  | error e => simp [hd] at h
  | ok b =>
    rw [hd] at h
    dsimp only at h
    split at h
    · exact h
    · cases h

end GridRules.Json
