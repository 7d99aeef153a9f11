/-!
# Cursors

Layout matters in YAML: what a character means depends on its column, and what may be a key on its
line. A cursor is the text that is still to be read together with the place where it starts.
-/

namespace GridRules.Yaml

/-- Whether a character breaks a line. -/
def isBreak (c : Char) : Bool :=
  c == '\n' || c == '\r' || c == '\x85' || c == '\u2028' || c == '\u2029'

/-- Whether a character is a blank within a line. -/
def isBlank (c : Char) : Bool := c == ' ' || c == '\t'

/-- Whether a text starts with a blank or a break, or is at its end. -/
def isGap : List Char → Bool
  | [] => true
  | c :: _ => isBlank c || isBreak c

/-- Whether a character may stand in a name: a letter, a digit, a hyphen or an underscore. -/
def isNameChar (c : Char) : Bool := c.isAlphanum || c == '-' || c == '_'

/-- Whether a character may stand in a text at all. Control characters may not. -/
def isAllowed (c : Char) : Bool :=
  let n := c.toNat
  n == 0x09 || n == 0x0A || n == 0x0D || (0x20 ≤ n && n ≤ 0x7E) || n == 0x85
    || (0xA0 ≤ n && n != 0xFFFE && n != 0xFFFF)

/-- The text that is still to be read and where it starts. -/
structure Cursor where
  /-- The text. -/
  rest : List Char
  /-- The number of characters before it. -/
  index : Nat
  /-- The number of lines before it. -/
  line : Nat
  /-- The number of characters before it on its line. -/
  column : Nat
deriving DecidableEq

namespace Cursor

/-- The cursor at the start of a text. -/
def start (text : List Char) : Cursor := ⟨text, 0, 0, 0⟩

/-- The cursor after some characters of the same line. -/
def advance (c : Cursor) (n : Nat) : Cursor :=
  ⟨c.rest.drop n, c.index + n, c.line, c.column + n⟩

/-- The characters that meet a condition, and the cursor after them. -/
def takeWhile (p : Char → Bool) (c : Cursor) : List Char × Cursor :=
  let run := c.rest.takeWhile p
  (run, c.advance run.length)

/-- The cursor after the characters that meet a condition. -/
def skipWhile (p : Char → Bool) (c : Cursor) : Cursor := (c.takeWhile p).2

/-- The cursor after a break of so many characters. -/
def nextLine (c : Cursor) (n : Nat) : Cursor := ⟨c.rest.drop n, c.index + n, c.line + 1, 0⟩

/-- Reads a break, if the cursor is at one. Most breaks are one and the same; a separator of lines
or paragraphs stays what it is. -/
def readBreak (c : Cursor) : List Char × Cursor :=
  match c.rest with
  | '\r' :: '\n' :: _ => (['\n'], c.nextLine 2)
  | b :: _ =>
    if isBreak b then ([if b.toNat < 0x100 then '\n' else b], c.nextLine 1) else ([], c)
  | [] => ([], c)

/-- The next character. -/
def head? (c : Cursor) : Option Char := c.rest.head?

/-- Whether the next character is the given one. -/
def isAt (c : Cursor) (x : Char) : Bool := c.rest.head? == some x

/-- Whether the cursor is at the start of a line with three times the same mark and a gap after
them: such a line starts or ends a document. -/
def isAtMark (c : Cursor) (mark : Char) : Bool :=
  match c.rest with
  | a :: b :: d :: r => c.column == 0 && a == mark && b == mark && d == mark && isGap r
  | _ => false

/-- Whether the cursor is at the start or the end of a document. -/
def isAtBoundary (c : Cursor) : Bool := c.isAtMark '-' || c.isAtMark '.'

/-- The cursor after a comment, if it is at one. -/
def skipComment (c : Cursor) : Cursor :=
  if c.isAt '#' then c.skipWhile fun x => !isBreak x else c

/-- The cursor after the rest of a line that holds nothing but blanks and a comment. -/
def finishLine? (c : Cursor) : Option Cursor :=
  let c := (c.skipWhile isBlank).skipComment
  match c.rest with
  | [] => some c
  | x :: _ => if isBreak x then some c.readBreak.2 else none

end Cursor

end GridRules.Yaml
