import GridRules.Value.Coercion
import GridRules.Yaml.Cursor

/-!
# Names, tags and directives

What may be said about a node before it comes: its name, its tag, and in directives before the
document what the handles of tags mean. A tag is a handle, a short name for the start of the tag,
and a suffix.
-/

namespace GridRules.Yaml

/-- Whether a character may follow a name without a gap. -/
def isNameEnd (c : Char) : Bool := "?:,]\x7d%@\x60".toList.contains c

/-- Reads a name after its indicator. -/
def readName (c : Cursor) : Option (List Char × Cursor) :=
  let (name, c) := c.takeWhile isNameChar
  if name = [] then none
  else if isGap c.rest || c.head?.any isNameEnd then some (name, c)
  else none

/-- Whether a character may stand in a tag. Between angle brackets some more may. -/
def isTagChar (bracketed : Bool) (c : Char) : Bool :=
  isNameChar c || ";/?:@&=+$.%!~*\x27()".toList.contains c || (bracketed && ",[]".toList.contains c)

/-- The number of bytes of a character whose first byte is given. -/
def leadLength? (b : Nat) : Option Nat :=
  if b < 0x80 then some 1
  else if 0xC0 ≤ b && b < 0xE0 then some 2
  else if 0xE0 ≤ b && b < 0xF0 then some 3
  else if 0xF0 ≤ b && b < 0xF8 then some 4
  else none

/-- The byte that starts a text as a percent sign with two digits. -/
def escapedByte? : List Char → Option Nat
  | '%' :: a :: b :: _ => ofRadixDigits? 16 0 [a, b]
  | _ => none

/-- The bytes that continue a character, each written as a percent sign with two digits. -/
def trailBytes? : Nat → List Char → Option (List Nat)
  | 0, _ => some []
  | n + 1, s =>
    match escapedByte? s with
    | some b =>
      if 0x80 ≤ b && b < 0xC0 then (trailBytes? n (s.drop 3)).map (b :: ·) else none
    | none => none

/-- The character that a text starts with as escaped bytes, and the number of its bytes. -/
def escapedChar? (s : List Char) : Option (List Char × Nat) := do
  let lead ← escapedByte? s
  let n ← leadLength? lead
  let trail ← trailBytes? (n - 1) (s.drop 3)
  let bytes : ByteArray := ⟨((lead :: trail).map UInt8.ofNat).toArray⟩
  let text ← String.fromUTF8? bytes
  return (text.toList, n)

/-- Reads the characters of a tag. -/
def readTagText (bracketed : Bool) : Nat → Cursor → Option (List Char × Cursor)
  | 0, c => some ([], c)
  | fuel + 1, c =>
    match c.rest with
    | '%' :: _ =>
      match escapedChar? c.rest with
      | some (x, n) =>
        (readTagText bracketed fuel (c.advance (3 * n))).map fun (s, c) => (x ++ s, c)
      | none => none
    | x :: _ =>
      if isTagChar bracketed x then
        (readTagText bracketed fuel (c.advance 1)).map fun (s, c) => (x :: s, c)
      else some ([], c)
    | [] => some ([], c)

/-- Reads the characters of a tag, at least one. -/
def readTagText? (bracketed : Bool) (c : Cursor) : Option (List Char × Cursor) :=
  match readTagText bracketed (c.rest.length + 1) c with
  | some ([], _) => none
  | r => r

/-- Reads an exclamation mark, the name after it and the exclamation mark that makes it a handle,
which may be missing. -/
def readHandle (c : Cursor) : Option (List Char × Cursor) :=
  if c.isAt '!' then
    let (name, c) := (c.advance 1).takeWhile isNameChar
    if c.isAt '!' then some ('!' :: name ++ ['!'], c.advance 1) else some ('!' :: name, c)
  else none

/-- Whether a text is a handle between two exclamation marks. -/
def isHandle (s : List Char) : Bool := 1 < s.length && s.getLast? == some '!'

/-- Reads the handle and the suffix of a tag. A tag in full has the empty handle; so has the
exclamation mark alone. -/
def readTagParts (c : Cursor) : Option (List Char × List Char × Cursor) :=
  match c.rest with
  | '!' :: '<' :: _ =>
    match readTagText? true (c.advance 2) with
    | some (s, c) => if c.isAt '>' then some ([], s, c.advance 1) else none
    | none => none
  | _ =>
    match readHandle c with
    | none => none
    | some (handle, c) =>
      if isHandle handle then (readTagText? false c).map fun (s, c) => (handle, s, c)
      else
        match readTagText false (c.rest.length + 1) c with
        | none => none
        | some (s, c) =>
          let suffix := handle.drop 1 ++ s
          some (if suffix = [] then ([], ['!'], c) else (['!'], suffix, c))

/-- Reads a tag. A gap has to follow, or a comma between brackets. -/
def readTag (flow : Bool) (c : Cursor) : Option (List Char × List Char × Cursor) :=
  match readTagParts c with
  | some (handle, suffix, c) =>
    if isGap c.rest || (flow && c.isAt ',') then some (handle, suffix, c) else none
  | none => none

/-! ## Directives -/

/-- A directive. -/
inductive Directive where
  /-- The version of YAML. -/
  | version (major minor : Nat)
  /-- The meaning of a handle. -/
  | handle (name meaning : List Char)
deriving DecidableEq

/-- Reads a number of at most nine digits. -/
def readVersionPart (c : Cursor) : Option (Nat × Cursor) :=
  let (ds, c) := c.takeWhile Char.isDigit
  if ds = [] || 9 < ds.length then none else some (Text.ofDigits ds, c)

/-- Reads the version after the name of its directive. -/
def readVersion (c : Cursor) : Option (Directive × Cursor) := do
  let (major, c) ← readVersionPart (c.skipWhile isBlank)
  if !c.isAt '.' then none
  else
    let (minor, c) ← readVersionPart (c.advance 1)
    return (.version major minor, c)

/-- Reads a handle and its meaning after the name of their directive. -/
def readMeaning (c : Cursor) : Option (Directive × Cursor) := do
  let (handle, c) ← readHandle (c.skipWhile isBlank)
  if handle ≠ ['!'] && !isHandle handle then none
  else if !c.head?.any isBlank then none
  else
    let (meaning, c) ← readTagText? true (c.skipWhile isBlank)
    if isGap c.rest then return (.handle handle meaning, c) else none

/-- Reads a directive after its percent sign, to the end of its line. -/
def readDirective (c : Cursor) : Option (Directive × Cursor) := do
  let (name, c) := c.takeWhile isNameChar
  if !isGap c.rest then none
  else
    let (directive, c) ←
      if name = "YAML".toList then readVersion c
      else if name = "TAG".toList then readMeaning c
      else none
    let c ← c.finishLine?
    return (directive, c)

end GridRules.Yaml
