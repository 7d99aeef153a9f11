import GridRules.Yaml.Parser
import GridRules.Yaml.Scanner

/-!
# Reading YAML

`Yaml.document` reads a text to a document and never fails: where the text goes wrong the document
is cut. References are replaced by the nodes that they name. A name that is not known where it is
used cuts the document; a node that refers to itself is suspect in the end, as are nodes that are
nested too deep.
-/

namespace GridRules.Yaml

/-- Lists and mappings may be nested to this depth. -/
def depthLimit : Nat := 128

/-! ## References -/

/-- An event whose reference is resolved to a number. -/
inductive Node where
  /-- A reference to the node of a number. -/
  | alias (number : Nat)
  /-- Any other event. -/
  | event (e : Event)

/-- The nodes that references stand for, by number: each with all that follows it. -/
abbrev Targets := List (Nat × List Node)

/-- Numbers the names of nodes and resolves references to them. A name gets the number of names
before it, where a name that was given several times counts once; so a number may come to stand for
a later node. An unknown name ends the events. -/
def resolve (names : List (List Char × Nat)) : List Event → List Node × Targets
  | [] => ([], [])
  | .alias name :: r =>
    match names.lookup name with
    | none => ([], [])
    | some n =>
      let (nodes, targets) := resolve names r
      (.alias n :: nodes, targets)
  | e :: r =>
    match e.anchor? with
    | none =>
      let (nodes, targets) := resolve names r
      (.event e :: nodes, targets)
    | some name =>
      let number := names.length
      let (nodes, targets) := resolve ((name, number) :: names.filter (·.1 ≠ name)) r
      (.event e :: nodes, targets ++ [(number, .event e :: nodes)])

/-! ## Documents -/

/-- What a collection that is nested too deep amounts to. -/
def nest (depth : Nat) (d : Document) : Document :=
  if depth = 0 then .suspect .malformed d else d

/-- A collection with its tag; only tags of the document's own matter. -/
def withTag (tag : Option (List Char)) (d : Document) : Document :=
  if tag.any fun t => Document.isLocalTag (String.ofList t) then .tagged d else d

/-- Whether nodes start with a scalar. -/
def startsScalar : List Node → Bool
  | .event (.scalar _ _ _ _) :: _ => true
  | _ => false

mutual

/-- Reads a node. `depth` is the number of levels that may still be opened, and `budget` the number
of references that may still be followed; the answer holds what is left of it and the nodes that
follow. -/
def readDocumentNode (targets : Targets) (depth budget : Nat) :
    Nat → List Node → Document × Nat × List Node
  | 0, _ => (.cut .malformed, budget, [])
  | fuel + 1, nodes =>
    match nodes with
    | .alias n :: r =>
      let target := (targets.lookup n).getD []
      if budget = 0 || (depth = 0 && !startsScalar target) then
        (.suspect .malformed .null, budget - 1, r)
      else
        let (d, budget, _) := readDocumentNode targets depth (budget - 1) fuel target
        (d, budget, r)
    | .event (.scalar _ tag style text) :: r =>
      (.scalar style (tag.map String.ofList) (String.ofList text), budget, r)
    | .event (.listStart _ tag) :: r =>
      let (items, budget, r) := readItems targets (depth - 1) budget fuel r
      (nest depth (withTag tag (.list items)), budget, r)
    | .event (.tableStart _ tag) :: r =>
      let (entries, budget, r) := readEntries targets (depth - 1) budget fuel r
      (nest depth (withTag tag (.table entries)), budget, r)
    | _ => (.cut .malformed, budget, [])

/-- Reads the items of a list to its end. -/
def readItems (targets : Targets) (depth budget : Nat) :
    Nat → List Node → List Document × Nat × List Node
  | 0, _ => ([.cut .malformed], budget, [])
  | fuel + 1, nodes =>
    match nodes with
    | .event .listEnd :: r => ([], budget, r)
    | [] => ([.cut .malformed], budget, [])
    | nodes =>
      let (d, budget, r) := readDocumentNode targets depth budget fuel nodes
      let (items, budget, r) := readItems targets depth budget fuel r
      (d :: items, budget, r)

/-- Reads the entries of a mapping to its end. -/
def readEntries (targets : Targets) (depth budget : Nat) :
    Nat → List Node → List (Document × Document) × Nat × List Node
  | 0, _ => ([(.cut .malformed, .cut .malformed)], budget, [])
  | fuel + 1, nodes =>
    match nodes with
    | .event .tableEnd :: r => ([], budget, r)
    | [] => ([(.cut .malformed, .cut .malformed)], budget, [])
    | nodes =>
      let (k, budget, r) := readDocumentNode targets depth budget fuel nodes
      let (d, budget, r) := readDocumentNode targets depth budget fuel r
      let (entries, budget, r) := readEntries targets depth budget fuel r
      ((k, d) :: entries, budget, r)

end

/-- The document of a text, and whether the text is sound and holds no other document. Each
reference may be followed a hundred times on average over all events. -/
def document (text : String) : Document × Bool :=
  let parsed := parse (tokens text)
  let (nodes, targets) := resolve [] parsed.events
  let n := nodes.length
  ((readDocumentNode targets depthLimit (100 * n) (260 * (n + 2)) nodes).1,
    parsed.alone && n == parsed.events.length)

/-- Decodes the document of a text. A problem inside the document comes before one after it. -/
def decode {α : Type} (decoder : Document → Except ReadError α) (text : String) :
    Except ReadError α :=
  let (d, alone) := document text
  match decoder d with
  | .error e => .error e
  | .ok a => if alone then .ok a else .error .malformed

end GridRules.Yaml
