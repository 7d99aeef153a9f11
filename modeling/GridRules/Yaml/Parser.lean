import GridRules.Yaml.Event

/-!
# The parser

Turns the tokens of a document into its events. The parser is a machine with a stack of tasks: what
still has to be read of the collections that are open, the innermost first. A step does the first
task: it reads some tokens, yields at most one event and says which tasks replace the one that is
done.
-/

namespace GridRules.Yaml

/-- What has to be read next. -/
inductive Task where
  /-- A node of a block. -/
  | node
  /-- The items of a list by indentation. -/
  | blockItem
  /-- The items of a list that is a value and not indented itself. -/
  | bareItem
  /-- The keys of a mapping by indentation. -/
  | blockKey
  /-- The value of such a key. -/
  | blockValue
  /-- The items of a list in brackets. -/
  | flowItem (first : Bool)
  /-- The key of an item that is a single entry. -/
  | pairKey
  /-- The value of such a key. -/
  | pairValue
  /-- The end of such an item. -/
  | pairEnd
  /-- The keys of a mapping in braces. -/
  | flowKey (first : Bool)
  /-- The value of such a key. -/
  | flowValue
  /-- The missing value of a key without a question mark or colon. -/
  | missingValue
deriving DecidableEq

/-- What a step of the parser comes to. -/
structure Step where
  /-- The event, if there is one. -/
  event : Option Event
  /-- The tasks that replace the one that is done. -/
  tasks : List Task
  /-- The tokens that follow. -/
  rest : List Token

/-- The meanings of the handles of tags. -/
abbrev Handles := List (List Char × List Char)

/-- The handles that every document knows. -/
def defaultHandles : Handles := [(['!'], ['!']), ("!!".toList, (Document.coreTag "").toList)]

/-- The tag of a handle and a suffix in full; the empty handle stands for nothing. -/
def Handles.resolve? (handles : Handles) (handle suffix : List Char) : Option (List Char) :=
  if handle = [] then some suffix else (handles.lookup handle).map (· ++ suffix)

/-- A name and a tag before a node. -/
structure Properties where
  /-- The name. -/
  anchor : Option (List Char)
  /-- The tag, as its handle and suffix. -/
  tag : Option (List Char × List Char)

/-- Reads the name and the tag before a node, in either order. -/
def readProperties : List Token → Properties × List Token
  | .anchor a :: .tag h s :: r => (⟨some a, some (h, s)⟩, r)
  | .tag h s :: .anchor a :: r => (⟨some a, some (h, s)⟩, r)
  | .anchor a :: r => (⟨some a, none⟩, r)
  | .tag h s :: r => (⟨none, some (h, s)⟩, r)
  | r => (⟨none, none⟩, r)

/-- Reads the tag in full; `none` when its handle has no meaning. -/
def Properties.tag? (p : Properties) (handles : Handles) : Option (Option (List Char)) :=
  match p.tag with
  | none => some none
  | some (handle, suffix) => (handles.resolve? handle suffix).map some

/-- Reads the start of a node. `block` says that block collections may stand here and `bare` that
the items of a list may. A node that is only named or tagged is an empty scalar. -/
def readNode (handles : Handles) (block bare : Bool) (next : List Task) (ts : List Token) :
    Option Step :=
  match ts with
  | .alias name :: r => some ⟨some (.alias name), next, r⟩
  | ts =>
    let (p, ts) := readProperties ts
    match p.tag? handles with
    | none => none
    | some tag =>
      let listOf (task : Task) (ts : List Token) : Option Step :=
        some ⟨some (.listStart p.anchor tag), task :: next, ts⟩
      let tableOf (task : Task) (ts : List Token) : Option Step :=
        some ⟨some (.tableStart p.anchor tag), task :: next, ts⟩
      let otherwise : Option Step :=
        if p.anchor.isSome || tag.isSome then some ⟨some (.scalar p.anchor tag .plain []), next, ts⟩
        else none
      match ts with
      | [] => none
      | .item :: _ => if bare then listOf .bareItem ts else otherwise
      | .scalar style text :: r =>
        let tag := if tag = some ['!'] then none else tag
        some ⟨some (.scalar p.anchor tag style text), next, r⟩
      | .flowList :: r => listOf (.flowItem true) r
      | .flowTable :: r => tableOf (.flowKey true) r
      | .blockList :: r => if block then listOf .blockItem r else otherwise
      | .blockTable :: r => if block then tableOf .blockKey r else otherwise
      | _ => otherwise

/-- A step that yields an empty scalar. -/
def emptyNode (next : List Task) (ts : List Token) : Option Step := some ⟨some .empty, next, ts⟩

/-- Whether the next token is one of the given; at the end of the tokens nothing can be said. -/
def nextIs? (marks : List Token) (ts : List Token) : Option Bool := ts.head?.map (marks.contains ·)

/-- Reads a node unless one of the given tokens comes next; then the node is empty. -/
def nodeUnless (handles : Handles) (block bare : Bool) (marks : List Token) (next : List Task)
    (ts : List Token) : Option Step :=
  match nextIs? marks ts with
  | none => none
  | some true => emptyNode next ts
  | some false => readNode handles block bare next ts

/-- Reads what follows in a list in brackets. -/
def readFlowItem (handles : Handles) (ts : List Token) : Option Step :=
  match ts with
  | [] => none
  | .key :: r => some ⟨some (.tableStart none none), [.pairKey, .flowItem false], r⟩
  | .flowListEnd :: r => some ⟨some .listEnd, [], r⟩
  | ts => readNode handles false false [.flowItem false] ts

/-- Reads what follows in a mapping in braces. -/
def readFlowKey (handles : Handles) (ts : List Token) : Option Step :=
  match ts with
  | [] => none
  | .key :: r =>
    nodeUnless handles false false [.value, .comma, .flowTableEnd] [.flowValue, .flowKey false] r
  | .flowTableEnd :: r => some ⟨some .tableEnd, [], r⟩
  | ts => readNode handles false false [.missingValue, .flowKey false] ts

/-- Does a task. -/
def step (handles : Handles) (task : Task) (ts : List Token) : Option Step :=
  match task, ts with
  | .node, ts => readNode handles true false [] ts
  | .blockItem, .item :: r => nodeUnless handles true false [.item, .blockEnd] [.blockItem] r
  | .blockItem, .blockEnd :: r => some ⟨some .listEnd, [], r⟩
  | .blockItem, _ => none
  | .bareItem, .item :: r =>
    nodeUnless handles true false [.item, .key, .value, .blockEnd] [.bareItem] r
  | .bareItem, _ :: _ => some ⟨some .listEnd, [], ts⟩
  | .bareItem, [] => none
  | .blockKey, .key :: r =>
    nodeUnless handles true true [.key, .value, .blockEnd] [.blockValue, .blockKey] r
  | .blockKey, .blockEnd :: r => some ⟨some .tableEnd, [], r⟩
  | .blockKey, _ => none
  | .blockValue, .value :: r => nodeUnless handles true true [.key, .value, .blockEnd] [] r
  | .blockValue, _ :: _ => emptyNode [] ts
  | .blockValue, [] => none
  | .flowItem true, ts => readFlowItem handles ts
  | .flowItem false, .comma :: r => readFlowItem handles r
  | .flowItem false, .flowListEnd :: r => some ⟨some .listEnd, [], r⟩
  | .flowItem false, _ => none
  | .pairKey, t :: r =>
    if [Token.value, .comma, .flowListEnd].contains t then emptyNode [.pairValue, .pairEnd] r
    else readNode handles false false [.pairValue, .pairEnd] ts
  | .pairKey, [] => none
  | .pairValue, .value :: r => nodeUnless handles false false [.comma, .flowListEnd] [] r
  | .pairValue, _ :: _ => emptyNode [] ts
  | .pairValue, [] => none
  | .pairEnd, _ :: _ => some ⟨some .tableEnd, [], ts⟩
  | .pairEnd, [] => none
  | .flowKey true, ts => readFlowKey handles ts
  | .flowKey false, .comma :: r => readFlowKey handles r
  | .flowKey false, .flowTableEnd :: r => some ⟨some .tableEnd, [], r⟩
  | .flowKey false, _ => none
  | .flowValue, .value :: r => nodeUnless handles false false [.comma, .flowTableEnd] [] r
  | .flowValue, _ :: _ => emptyNode [] ts
  | .flowValue, [] => none
  | .missingValue, _ :: _ => emptyNode [] ts
  | .missingValue, [] => none

/-- Does all tasks. The answer is the events and the tokens that follow, `none` where no task could
go on. -/
def run (handles : Handles) : Nat → List Task → List Token → List Event × Option (List Token)
  | _, [], ts => ([], some ts)
  | 0, _ :: _, _ => ([], none)
  | fuel + 1, task :: tasks, ts =>
    match step handles task ts with
    | none => ([], none)
    | some s =>
      let (events, rest) := run handles fuel (s.tasks ++ tasks) s.rest
      (s.event.toList ++ events, rest)

/-! ## Documents -/

/-- Reads the directives before a document. A version other than 1.1 and 1.2, a second version and a
second meaning of a handle are refused. -/
def readDirectives (versioned : Bool) (handles : Handles) :
    List Token → Option (Handles × List Token)
  | .version major minor :: r =>
    if versioned || major ≠ 1 || (minor ≠ 1 && minor ≠ 2) then none
    else readDirectives true handles r
  | .handle name meaning :: r =>
    if (handles.lookup name).isSome then none
    else readDirectives versioned (handles ++ [(name, meaning)]) r
  | ts => some (handles, ts)

/-- What the tokens of a text amount to: the events of its first document, and whether the text is
sound and holds nothing else. -/
structure Parsed where
  /-- The events of the first document, up to where the text goes wrong. -/
  events : List Event
  /-- Whether the text is sound and ends after the document. -/
  alone : Bool

/-- Whether only the end of the text follows. -/
def endsText : List Token → Bool
  | .documentEnd :: r => endsText r
  | [.textEnd] => true
  | _ => false

/-- Reads the node of a document. -/
def readDocument (handles : Handles) (ts : List Token) : Parsed :=
  let (events, rest) := run (handles ++ defaultHandles) (4 * ts.length + 4) [.node] ts
  ⟨events, rest.any endsText⟩

/-- The tokens that may stand for an empty document after its start. -/
def endsDocument : Token → Bool
  | .version _ _ => true
  | .handle _ _ => true
  | .documentStart => true
  | .documentEnd => true
  | .textEnd => true
  | _ => false

/-- Parses tokens. A text without any node is a document with an empty scalar. -/
def parse (ts : List Token) : Parsed :=
  match ts with
  | [.textEnd] => ⟨[.empty], true⟩
  | ts =>
    match readDirectives false [] ts with
    | none => ⟨[], false⟩
    | some (handles, .documentStart :: r) =>
      if r.head?.any endsDocument then ⟨[.empty], endsText r⟩ else readDocument handles r
    | some (handles, r) => if r.length = ts.length then readDocument handles r else ⟨[], false⟩

end GridRules.Yaml
