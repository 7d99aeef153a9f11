import GridRules.Document.Plain
import GridRules.Expression.Fault

/-!
# Documents

What a reader of text hands to the decoders of structures. A document keeps what a JSON value drops:
the order of the entries, repeated names, scalars whose type is still open. It also keeps where the
text went wrong, at the place where a decoder meets it, because the first problem in the order of
the text decides how a text is refused, be it a bad character or a value of the wrong type.
-/

namespace GridRules

/-- Why a text could not be read. -/
inductive ReadError where
  /-- The text is not well formed. -/
  | malformed
  /-- The text ends too early. -/
  | unfinished
  /-- A part of the document has not the form that is needed there. -/
  | shape
  /-- A structure is written as a list with more items than it has fields, or a choice as a mapping
  without exactly one entry. -/
  | surplus
  /-- An expression is faulty. -/
  | expression (fault : Expression.Fault)
  /-- An entry of a menu is neither a name nor an item. -/
  | menuEntry (got : Value)
deriving DecidableEq

/-- How a scalar is written. -/
inductive ScalarStyle where
  /-- Without quotes. -/
  | plain
  /-- As a block that keeps its lines. -/
  | literal
  /-- In quotes or as a folded block. -/
  | quoted
deriving DecidableEq

/-- A document as it was read. -/
inductive Document where
  /-- A typed null. -/
  | null
  /-- A typed truth value. -/
  | bool (b : Bool)
  /-- A typed number. -/
  | number (n : Number)
  /-- A typed text. -/
  | text (s : String)
  /-- A scalar whose type depends on what is expected. The tag is given in full. -/
  | scalar (style : ScalarStyle) (tag : Option String) (s : String)
  /-- A list. -/
  | list (items : List Document)
  /-- A mapping, with its entries in the order of the text. -/
  | table (entries : List (Document × Document))
  /-- A list or mapping with a tag of the document's own. -/
  | tagged (node : Document)
  /-- A part that ends properly but cannot be read for the given reason; it may still be passed
  over. -/
  | suspect (reason : ReadError) (node : Document)
  /-- The place where the text could not be followed any further. -/
  | cut (reason : ReadError)
deriving Inhabited

namespace Document

/-- The namespace of the tags of the core schema. -/
def coreTag (name : String) : String := "tag:yaml.org,2002:" ++ name

/-- Whether a tag is one of the document's own. -/
def isLocalTag (tag : String) : Bool := tag.toList.head? == some '!'

/-- The value of a scalar with a tag. A tag of the document's own names no value, and one that the
core schema does not resolve leaves the text. -/
def taggedValue? (tag s : String) : Option Value :=
  let cs := s.toList
  if isLocalTag tag then none
  else if tag = coreTag "bool" then (Plain.bool? s).map .bool
  else if tag = coreTag "int" then
    (Plain.int? cs).bind fun n => (Number.ofInt? n).map .number
  else if tag = coreTag "float" then
    (Plain.double? cs).map fun x =>
      match Number.ofDouble? x with
      | some n => .number n
      | none => .null
  else if tag = coreTag "null" then if Plain.isNull s && s != "" then some .null else none
  else some (.string s)

/-- The value of a scalar. -/
def scalarValue? (style : ScalarStyle) (tag : Option String) (s : String) : Option Value :=
  match tag with
  | some tag => taggedValue? tag s
  | none => if style = .plain then Plain.value? s else some (.string s)

/-- The text of a document where a text is needed; every scalar has one. -/
def asText : Document → Except ReadError String
  | .text s => .ok s
  | .scalar _ _ s => .ok s
  | .suspect reason _ => .error reason
  | .cut reason => .error reason
  | _ => .error .shape

/-- Whether a scalar may be read as a truth value or number by its text. -/
def isOpen (kind : String) (style : ScalarStyle) (tag : Option String) : Bool :=
  match style with
  | .plain => true
  | .literal => tag == some (coreTag kind)
  | .quoted => false

/-- The truth value of a document where one is needed. -/
def asBool : Document → Except ReadError Bool
  | .bool b => .ok b
  | .scalar style tag s =>
    match if isOpen "bool" style tag then Plain.bool? s else none with
    | some b => .ok b
    | none => .error .shape
  | .suspect reason _ => .error reason
  | .cut reason => .error reason
  | _ => .error .shape

/-- The unsigned 64-bit number that a text without quotes writes, with an optional plus sign. -/
def countOf? (s : List Char) : Option Nat :=
  let t := match s with
    | '+' :: r => r
    | s => s
  if Plain.startsSigned t then none else (Plain.natural? t).filter (· < 0x10000000000000000)

/-- The unsigned 64-bit number of a document where one is needed. -/
def asCount : Document → Except ReadError UInt64
  | .number (.integer n _) => if 0 ≤ n then .ok (.ofNat n.toNat) else .error .shape
  | .scalar style tag s =>
    match if isOpen "int" style tag then countOf? s.toList else none with
    | some n => .ok (.ofNat n)
    | none => .error .shape
  | .suspect reason _ => .error reason
  | .cut reason => .error reason
  | _ => .error .shape

/-- Whether a document stands for the absence of an optional value. -/
def isNull : Document → Bool
  | .null => true
  | .scalar .plain none s => Plain.isNull s
  | .scalar .plain (some tag) s => tag == coreTag "null" && Plain.isNull s && s != ""
  | _ => false

/-- Whether a document stands for a list or mapping without content. -/
def isVoid : Document → Bool
  | .scalar .plain _ s => Plain.isNull s
  | _ => false

mutual

/-- Passes over a document whose content does not matter; only the end of the text can stop it. -/
def skip : Document → Except ReadError Unit
  | .list items => skipItems items
  | .table entries => skipEntries entries
  | .tagged node => skip node
  | .suspect _ node => skip node
  | .cut reason => .error reason
  | _ => .ok ()

/-- Passes over the items of a list. -/
def skipItems : List Document → Except ReadError Unit
  | [] => .ok ()
  | d :: r =>
    match skip d with
    | .error e => .error e
    | .ok () => skipItems r

/-- Passes over the entries of a mapping. -/
def skipEntries : List (Document × Document) → Except ReadError Unit
  | [] => .ok ()
  | (k, d) :: r =>
    match skip k with
    | .error e => .error e
    | .ok () =>
      match skip d with
      | .error e => .error e
      | .ok () => skipEntries r

end

mutual

/-- The JSON value of a document, or the first problem in it. -/
def toValue : Document → Except ReadError Value
  | .null => .ok .null
  | .bool b => .ok (.bool b)
  | .number n => .ok (.number n)
  | .text s => .ok (.string s)
  | .scalar style tag s =>
    match scalarValue? style tag s with
    | some v => .ok v
    | none => .error .shape
  | .list items => (itemValues items).map .array
  | .table entries => (entryValues entries).map .ofPairs
  | .tagged _ => .error .shape
  | .suspect reason _ => .error reason
  | .cut reason => .error reason

/-- The JSON values of the items of a list. -/
def itemValues : List Document → Except ReadError (List Value)
  | [] => .ok []
  | d :: r =>
    match toValue d with
    | .error e => .error e
    | .ok v => (itemValues r).map (v :: ·)

/-- The names and JSON values of the entries of a mapping. -/
def entryValues : List (Document × Document) → Except ReadError (List (String × Value))
  | [] => .ok []
  | (k, d) :: r =>
    match asText k with
    | .error e => .error e
    | .ok name =>
      match toValue d with
      | .error e => .error e
      | .ok v => (entryValues r).map ((name, v) :: ·)

end

mutual

/-- The document of a JSON value. -/
def ofValue : Value → Document
  | .null => .null
  | .bool b => .bool b
  | .number n => .number n
  | .string s => .text s
  | .array items => .list (ofItems items)
  | .object fields => .table (ofFields fields)

/-- The documents of the items of a list. -/
def ofItems : List Value → List Document
  | [] => []
  | v :: r => ofValue v :: ofItems r

/-- The entries of the fields of an object. -/
def ofFields : List (String × Value) → List (Document × Document)
  | [] => []
  | (n, v) :: r => (.text n, ofValue v) :: ofFields r

end

end Document

end GridRules
