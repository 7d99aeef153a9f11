import GridRules.Document.Basic

/-!
# Decoding structures

Decoders for the parts that structures are made of: optional values, lists, dictionaries, and the
named fields of a structure. Parts are decoded in the order of the document, so that its first
problem decides.
-/

namespace GridRules.Document

variable {α β σ : Type}

/-- Decodes the documents of a list in their order. -/
def each (decoder : α → Except ReadError β) : List α → Except ReadError (List β)
  | [] => .ok []
  | d :: r =>
    match decoder d with
    | .error e => .error e
    | .ok b => (each decoder r).map (b :: ·)

/-- Decodes a value that may be null. -/
def optional (decoder : Document → Except ReadError α) (d : Document) :
    Except ReadError (Option α) :=
  if d.isNull then .ok none else (decoder d).map some

/-- The document without a tag of its own around it. -/
def untag : Document → Document
  | .tagged node => node
  | d => d

/-- Why a document is neither the list nor the mapping that is needed. -/
def refusal : Document → ReadError
  | .suspect reason _ => reason
  | .cut reason => reason
  | _ => .shape

/-- Decodes the items of a list. -/
def listOf (decoder : Document → Except ReadError α) (d : Document) : Except ReadError (List α) :=
  match d.untag with
  | .list items => each decoder items
  | d => if d.isVoid then .ok [] else .error d.refusal

/-- Decodes an entry of a mapping, its name first. -/
def entry (decoder : Document → Except ReadError α) (e : Document × Document) :
    Except ReadError (String × α) :=
  match asText e.1 with
  | .error reason => .error reason
  | .ok name => (decoder e.2).map (name, ·)

/-- Decodes a mapping of names; of two entries with one name the later counts. -/
def dictionaryOf (decoder : Document → Except ReadError α) (d : Document) :
    Except ReadError (Dictionary α) :=
  match d.untag with
  | .table entries => (each (entry decoder) entries).map .ofList
  | d => if d.isVoid then .ok .empty else .error d.refusal

/-- Takes the entries of a mapping into a draft, one after the other. Unknown names are
passed over. -/
def takeEntries (names : List String) (take : σ → String → Document → Except ReadError σ) :
    σ → List (Document × Document) → Except ReadError σ
  | draft, [] => .ok draft
  | draft, (k, d) :: r =>
    match asText k with
    | .error e => .error e
    | .ok name =>
      if name ∈ names then
        match take draft name d with
        | .error e => .error e
        | .ok draft => takeEntries names take draft r
      else
        match skip d with
        | .error e => .error e
        | .ok () => takeEntries names take draft r

/-- Takes the items of a list into a draft as the fields of the given names, in that order. -/
def takeItems (take : σ → String → Document → Except ReadError σ) :
    σ → List String → List Document → Except ReadError σ
  | draft, _, [] => .ok draft
  | _, [], d :: _ =>
    match d with
    | .cut reason => .error reason
    | _ => .error .surplus
  | draft, name :: names, d :: r =>
    match take draft name d with
    | .error e => .error e
    | .ok draft => takeItems take draft names r

/-- Decodes a structure into a draft. A structure is a mapping, or a list of its fields in order, of
which the first `least` have to be there. -/
def structureOf (names : List String) (least : Nat) (draft : σ)
    (take : σ → String → Document → Except ReadError σ) (d : Document) : Except ReadError σ :=
  match d.untag with
  | .table entries => takeEntries names take draft entries
  | .list items =>
    match takeItems take draft names items with
    | .error e => .error e
    | .ok draft => if items.length < least then .error .shape else .ok draft
  | d => if d.isVoid then .ok draft else .error d.refusal

/-- Decodes a field that a structure has once; a second one is refused before it is looked at. -/
def once (old : Option β) (decoder : Document → Except ReadError β) (d : Document) :
    Except ReadError (Option β) :=
  match old with
  | some _ => .error .shape
  | none => (decoder d).map some

/-- A field that has to be there. -/
def required : Option β → Except ReadError β
  | some b => .ok b
  | none => .error .shape

end GridRules.Document
