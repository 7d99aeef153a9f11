import GridRules.Yaml.Scalar
import GridRules.Yaml.Tag
import GridRules.Yaml.Token

/-!
# The scanner

Turns a text into tokens. Most tokens are known by their first characters. Two things need memory:
the columns of the block collections that are open, and for each level of brackets the place where a
key may have started. Whether one did is only known at its colon, so a token that may start a key is
held back until the key is found or can no longer come: a key has one line and at most 1024
characters.

A token that is held back is never handed out when the text goes wrong behind it.
-/

namespace GridRules.Yaml

/-- A place where a key may have started. -/
structure KeyPlace where
  /-- Whether it has to be a key, because an entry of the mapping is due. -/
  required : Bool
  /-- The number of tokens before it. -/
  token : Nat
  /-- Where it is in the text. -/
  index : Nat
  /-- Its line. -/
  line : Nat
  /-- Its column. -/
  column : Nat
deriving DecidableEq

/-- A scanner within a text. -/
structure Scanner where
  /-- The text ahead. -/
  cursor : Cursor
  /-- The columns of the open block collections, the innermost first. -/
  columns : List Nat
  /-- Where a key may have started, for each open level of brackets, the innermost first, and for
  the block level last. -/
  places : List (Option KeyPlace)
  /-- Whether a key may start here. -/
  keyAllowed : Bool
  /-- The tokens that are held back. -/
  held : List Token
  /-- The number of tokens handed out. -/
  given : Nat
deriving DecidableEq

namespace Scanner

/-- A scanner at the start of a text. -/
def start (text : List Char) : Scanner := ⟨.start text, [], [none], true, [], 0⟩

/-- Whether the scanner is between brackets. -/
def isFlow (s : Scanner) : Bool := 1 < s.places.length

/-- The least column of a further line of a node. -/
def leastColumn (s : Scanner) : Nat := (s.columns.head?.map (· + 1)).getD 0

/-- The place where a key may have started on this level. -/
def place? (s : Scanner) : Option KeyPlace := s.places.head?.join

/-- The scanner with another place on this level. -/
def setPlace (s : Scanner) (place : Option KeyPlace) : Scanner :=
  { s with places := place :: s.places.tail }

/-- The scanner with a further token. -/
def put (s : Scanner) (t : Token) : Scanner := { s with held := s.held ++ [t] }

/-- The scanner with a token put before the one of the given number. -/
def putAt (s : Scanner) (number : Nat) (t : Token) : Scanner :=
  { s with held := s.held.insertIdx (number - s.given) t }

/-! ## Keys -/

/-- Whether a place is too far behind for a key. -/
def isStale (s : Scanner) (p : KeyPlace) : Bool :=
  p.line < s.cursor.line || p.index + 1024 < s.cursor.index

/-- Gives up the places that are too far behind; one that is required is refused. -/
def dropStale (s : Scanner) : Option Scanner :=
  let stale (p : Option KeyPlace) : Bool := p.any s.isStale
  if s.places.any fun p => stale p && p.any KeyPlace.required then none
  else some { s with places := s.places.map fun p => if stale p then none else p }

/-- Gives up the place on this level; one that is required is refused. -/
def dropPlace (s : Scanner) : Option Scanner :=
  if s.place?.any KeyPlace.required then none else some (s.setPlace none)

/-- Notes that a key may start here, if it may. -/
def notePlace (s : Scanner) : Option Scanner :=
  if s.keyAllowed then
    let c := s.cursor
    let required := !s.isFlow && s.columns.head? == some c.column
    s.dropPlace.map fun t =>
      t.setPlace (some ⟨required, s.given + s.held.length, c.index, c.line, c.column⟩)
  else some s

/-! ## Indentation -/

/-- Opens a block collection at a column, if that is right of the innermost one. -/
def openBlock (s : Scanner) (column : Nat) (number : Nat) (t : Token) : Scanner :=
  if !s.isFlow && s.leastColumn ≤ column then
    { s.putAt number t with columns := column :: s.columns }
  else s

/-- Opens a block collection that starts with the next token. -/
def openBlockHere (s : Scanner) (t : Token) : Scanner :=
  s.openBlock s.cursor.column (s.given + s.held.length) t

/-- Closes the block collections at columns from `least` on. -/
def closeBlocks (s : Scanner) (least : Nat) : Scanner :=
  if s.isFlow then s
  else
    let closed := s.columns.takeWhile (least ≤ ·)
    { s with
      columns := s.columns.drop closed.length
      held := s.held ++ closed.map fun _ => Token.blockEnd }

/-! ## Tokens -/

/-- The scanner after some characters that make a token. -/
def putMark (s : Scanner) (n : Nat) (t : Token) : Scanner :=
  { s with cursor := s.cursor.advance n }.put t

/-- Passes over blanks, comments and breaks. A tab is no blank where a key may start. -/
def skipGap : Nat → Scanner → Scanner
  | 0, s => s
  | fuel + 1, s =>
    let c := if s.cursor.column = 0 && s.cursor.isAt '\ufeff' then s.cursor.advance 1 else s.cursor
    let c := c.skipWhile fun x => x == ' ' || ((s.isFlow || !s.keyAllowed) && x == '\t')
    let c := c.skipComment
    if c.head?.any isBreak then
      skipGap fuel { s with cursor := c.readBreak.2, keyAllowed := s.keyAllowed || !s.isFlow }
    else { s with cursor := c }

/-- Reads the end of the text, which also ends the last line. -/
def readEnd (s : Scanner) : Option Scanner :=
  (s.closeBlocks 0).dropPlace.map fun s =>
    let c := if s.cursor.column = 0 then s.cursor else s.cursor.nextLine 0
    { s with cursor := c, keyAllowed := false }.put .textEnd

/-- Reads a directive. -/
def readDirective (s : Scanner) : Option Scanner := do
  let s ← (s.closeBlocks 0).dropPlace
  let (directive, c) ← Yaml.readDirective (s.cursor.advance 1)
  let token := match directive with
    | .version major minor => Token.version major minor
    | .handle name meaning => Token.handle name meaning
  return { s with cursor := c, keyAllowed := false }.put token

/-- Reads the start or the end of a document. -/
def readBoundary (s : Scanner) (t : Token) : Option Scanner :=
  (s.closeBlocks 0).dropPlace.map fun s => { s with keyAllowed := false }.putMark 3 t

/-- Reads an opening bracket or brace. -/
def readOpening (s : Scanner) (t : Token) : Option Scanner :=
  s.notePlace.map fun s => { s with places := none :: s.places, keyAllowed := true }.putMark 1 t

/-- Reads a closing bracket or brace. -/
def readClosing (s : Scanner) (t : Token) : Option Scanner :=
  s.dropPlace.map fun s =>
    let places := if s.isFlow then s.places.tail else s.places
    { s with places := places, keyAllowed := false }.putMark 1 t

/-- Reads a comma. -/
def readComma (s : Scanner) : Option Scanner :=
  s.dropPlace.map fun s => { s with keyAllowed := true }.putMark 1 .comma

/-- Reads the hyphen of an item. -/
def readItem (s : Scanner) : Option Scanner :=
  if !s.isFlow && !s.keyAllowed then none
  else
    (s.openBlockHere .blockList).dropPlace.map fun s =>
      { s with keyAllowed := true }.putMark 1 .item

/-- Reads the question mark of a key. -/
def readKey (s : Scanner) : Option Scanner :=
  if !s.isFlow && !s.keyAllowed then none
  else
    (s.openBlockHere .blockTable).dropPlace.map fun s =>
      { s with keyAllowed := !s.isFlow }.putMark 1 .key

/-- Reads the colon of a value. If a key may have started before it, it did. -/
def readValue (s : Scanner) : Option Scanner :=
  match s.place? with
  | some p =>
    let s := (s.putAt p.token .key).openBlock p.column p.token .blockTable
    some ({ s.setPlace none with keyAllowed := false }.putMark 1 .value)
  | none =>
    if !s.isFlow && !s.keyAllowed then none
    else
      let s := s.openBlockHere .blockTable
      some ({ s with keyAllowed := !s.isFlow }.putMark 1 .value)

/-- Reads a name after its indicator; `token` makes it an alias or an anchor. -/
def readNamed (s : Scanner) (token : List Char → Token) : Option Scanner := do
  let s ← s.notePlace
  let (name, c) ← Yaml.readName (s.cursor.advance 1)
  return { s with cursor := c, keyAllowed := false }.put (token name)

/-- Reads a tag. -/
def readTag (s : Scanner) : Option Scanner := do
  let s ← s.notePlace
  let (handle, suffix, c) ← Yaml.readTag s.isFlow s.cursor
  return { s with cursor := c, keyAllowed := false }.put (.tag handle suffix)

/-- Reads a block scalar. -/
def readBlock (s : Scanner) (folded : Bool) : Option Scanner := do
  let s ← s.dropPlace
  let (text, c) ← Yaml.readBlock folded s.leastColumn (s.cursor.advance 1)
  let style : ScalarStyle := if folded then .quoted else .literal
  return { s with cursor := c, keyAllowed := true }.put (.scalar style text)

/-- Reads a quoted scalar. -/
def readQuoted (s : Scanner) (quote : Char) : Option Scanner := do
  let s ← s.notePlace
  let c := s.cursor.advance 1
  let (text, c) ← Yaml.readQuoted quote (c.rest.length + 1) [] c
  return { s with cursor := c, keyAllowed := false }.put (.scalar .quoted text)

/-- Reads a plain scalar. A key may follow if the scalar ends on an earlier line. -/
def readPlain (s : Scanner) : Option Scanner := do
  let s ← s.notePlace
  let fuel := s.cursor.rest.length + 1
  let (text, newLine, c) ← Yaml.readPlain s.isFlow s.leastColumn fuel [] (.blanks []) s.cursor
  return { s with cursor := c, keyAllowed := newLine }.put (.scalar .plain text)

/-- Whether a plain scalar may start with a character. -/
def startsPlain (flow : Bool) (c : Char) (r : List Char) : Bool :=
  if c == '-' then !r.head?.any isBlank
  else if c == '?' || c == ':' then !flow && !isGap r
  else !(isBlank c || isBreak c || ",[]\x7b\x7d#&*!|>\x27\"%@\x60".toList.contains c)

/-- Reads the next token of a text that is not at its end. -/
def readToken (s : Scanner) (c : Char) (r : List Char) : Option Scanner :=
  let flow := s.isFlow
  if s.cursor.column = 0 && c == '%' then s.readDirective
  else if s.cursor.isAtMark '-' then s.readBoundary .documentStart
  else if s.cursor.isAtMark '.' then s.readBoundary .documentEnd
  else
    match c with
    | '[' => s.readOpening .flowList
    | '\x7b' => s.readOpening .flowTable
    | ']' => s.readClosing .flowListEnd
    | '\x7d' => s.readClosing .flowTableEnd
    | ',' => s.readComma
    | '*' => s.readNamed .alias
    | '&' => s.readNamed .anchor
    | '!' => s.readTag
    | '\x27' => s.readQuoted '\x27'
    | '"' => s.readQuoted '"'
    | _ =>
      if c == '-' && isGap r then s.readItem
      else if c == '?' && (flow || isGap r) then s.readKey
      else if c == ':' && (flow || isGap r) then s.readValue
      else if c == '|' && !flow then s.readBlock false
      else if c == '>' && !flow then s.readBlock true
      else if startsPlain flow c r then s.readPlain
      else none

/-- Reads on by at least one token. -/
def read (s : Scanner) : Option Scanner := do
  let s := skipGap (s.cursor.rest.length + 1) s
  let s ← s.dropStale
  let s := s.closeBlocks (s.cursor.column + 1)
  match s.cursor.rest with
  | [] => s.readEnd
  | c :: r => s.readToken c r

/-- Whether the first token that is held back may start a key. -/
def isPending (s : Scanner) : Bool := s.places.any fun p => p.any fun p => p.token == s.given

/-- Hands out the next token, reading as far as is needed to be sure of it. The fuel bounds the
number of tokens read. -/
def next? : Nat → Scanner → Option (Token × Scanner)
  | 0, _ => none
  | fuel + 1, s =>
    match s.held with
    | [] =>
      match s.read with
      | some s => next? fuel s
      | none => none
    | t :: r =>
      match s.dropStale with
      | none => none
      | some s =>
        if s.isPending then
          match s.read with
          | some s => next? fuel s
          | none => none
        else some (t, { s with held := r, given := s.given + 1 })

/-- The tokens up to the end of the text, or up to where it goes wrong. The fuel bounds the number
of tokens and, together with it, the number of characters. -/
def tokensFrom : Nat → Scanner → List Token
  | 0, _ => []
  | fuel + 1, s =>
    match next? (fuel + 1) s with
    | none => []
    | some (.textEnd, _) => [.textEnd]
    | some (t, s) => t :: tokensFrom fuel s

end Scanner

/-- The tokens of a text. They end with the end of the text, unless the text goes wrong. -/
def tokens (text : String) : List Token :=
  let s := text.toList
  if s.all isAllowed then Scanner.tokensFrom (6 * s.length + 10) (.start s) else []

end GridRules.Yaml
