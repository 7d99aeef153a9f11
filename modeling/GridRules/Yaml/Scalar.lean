import GridRules.Value.Coercion
import GridRules.Yaml.Cursor

/-!
# Scalars

The notations of a scalar: plain, in single or double quotes, and as a block that keeps or folds its
lines. Reading fails where the notation is not kept to. The loops that read line by line take fuel;
the length of the text and one suffices.
-/

namespace GridRules.Yaml

/-- The blanks and breaks between two parts of a scalar. -/
inductive Gap where
  /-- Blanks within a line. -/
  | blanks (s : List Char)
  /-- Breaks: the first one, none for an escaped one, and the ones of the empty lines after it. -/
  | breaks (first more : List Char)
deriving DecidableEq

namespace Gap

/-- What a gap contributes to the text: blanks stay; a single break is folded to a space, and of
several the first one is dropped. -/
def fold : Gap → List Char
  | blanks s => s
  | breaks first more =>
    if first = ['\n'] then if more = [] then [' '] else more else first ++ more

/-- Whether a gap reaches another line. -/
def spansLines : Gap → Bool
  | blanks _ => false
  | breaks _ _ => true

/-- The gap extended by a blank; on a further line blanks do not count. -/
def addBlank (g : Gap) (c : Char) : Gap :=
  match g with
  | blanks s => .blanks (s ++ [c])
  | g => g

/-- The gap extended by a break. -/
def addBreak (g : Gap) (b : List Char) : Gap :=
  match g with
  | blanks _ => .breaks b []
  | breaks first more => .breaks first (more ++ b)

end Gap

/-- Reads the blanks and breaks after a part of a scalar. On a further line a tab is refused left of
the column `least`. -/
def readGap (least : Nat) : Nat → Gap → Cursor → Option (Gap × Cursor)
  | 0, g, c => some (g, c)
  | fuel + 1, g, c =>
    match c.rest with
    | [] => some (g, c)
    | x :: _ =>
      if isBlank x then
        if g.spansLines && c.column < least && x == '\t' then none
        else readGap least fuel (g.addBlank x) (c.advance 1)
      else if isBreak x then
        let (b, after) := c.readBreak
        readGap least fuel (g.addBreak b) after
      else some (g, c)

/-! ## Plain scalars -/

/-- Whether a character ends a plain scalar between brackets. -/
def isFlowMark (c : Char) : Bool :=
  c == ',' || c == '[' || c == ']' || c == '\x7b' || c == '\x7d'

/-- The part of a plain scalar up to the next gap or mark. Between brackets a colon right before a
mark is refused. -/
def plainPart (flow : Bool) : List Char → Option (List Char)
  | [] => some []
  | c :: r =>
    if isBlank c || isBreak c then some []
    else if flow && c == ':' && r.head?.any fun d => isFlowMark d || d == '?' then none
    else if (c == ':' && isGap r) || (flow && isFlowMark c) then some []
    else (plainPart flow r).map (c :: ·)

/-- Reads a plain scalar whose further lines start at the column `least` or right of it. The answer
tells also whether the cursor reached another line behind the scalar. -/
def readPlain (flow : Bool) (least : Nat) :
    Nat → List Char → Gap → Cursor → Option (List Char × Bool × Cursor)
  | 0, done, g, c => some (done, g.spansLines, c)
  | fuel + 1, done, g, c =>
    if c.isAtBoundary || c.isAt '#' then some (done, g.spansLines, c)
    else
      match plainPart flow c.rest with
      | none => none
      | some [] => some (done, g.spansLines, c)
      | some part =>
        let done := done ++ g.fold ++ part
        let c := c.advance part.length
        if c.rest = [] || !isGap c.rest then some (done, false, c)
        else
          match readGap least (c.rest.length + 1) (.blanks []) c with
          | none => none
          | some (g, c) =>
            if !flow && c.column < least then some (done, g.spansLines, c)
            else readPlain flow least fuel done g c

/-! ## Quoted scalars -/

/-- How a part of a quoted scalar ends. -/
inductive PartEnd where
  /-- By a gap, the closing quote or the end of the text. -/
  | plain
  /-- By an escaped break. -/
  | escapedBreak
deriving DecidableEq

/-- The part of a scalar in single quotes up to the next gap or quote, and the number of its
characters in the text. A doubled quote stands for one. -/
def singlePart : List Char → List Char × Nat
  | '\x27' :: '\x27' :: r =>
    let (part, n) := singlePart r
    ('\x27' :: part, n + 2)
  | c :: r =>
    if c == '\x27' || isBlank c || isBreak c then ([], 0)
    else
      let (part, n) := singlePart r
      (c :: part, n + 1)
  | [] => ([], 0)

/-- The character that an escape of one letter stands for. -/
def simpleEscape? : Char → Option Char
  | '0' => some '\x00'
  | 'a' => some '\x07'
  | 'b' => some '\x08'
  | 't' => some '\t'
  | '\t' => some '\t'
  | 'n' => some '\n'
  | 'v' => some '\x0b'
  | 'f' => some '\x0c'
  | 'r' => some '\r'
  | 'e' => some '\x1b'
  | ' ' => some ' '
  | '"' => some '"'
  | '/' => some '/'
  | '\\' => some '\\'
  | 'N' => some '\x85'
  | '_' => some '\xa0'
  | 'L' => some '\u2028'
  | 'P' => some '\u2029'
  | _ => none

/-- The number of digits of an escape by number. -/
def escapeDigits? : Char → Option Nat
  | 'x' => some 2
  | 'u' => some 4
  | 'U' => some 8
  | _ => none

/-- The character of an escape by number. -/
def numberedChar? (digits : List Char) : Option Char :=
  match ofRadixDigits? 16 0 digits with
  | some n => if n.isValidChar then some (Char.ofNat n) else none
  | none => none

/-- The character of an escape, given the text after its backslash, and the number of its
characters. -/
def readEscape (s : List Char) : Option (Char × Nat) :=
  match s with
  | [] => none
  | e :: r =>
    match escapeDigits? e with
    | some n =>
      let digits := r.take n
      if digits.length = n then (numberedChar? digits).map (·, n + 1) else none
    | none => (simpleEscape? e).map (·, 1)

/-- The part of a scalar in double quotes up to the next gap or quote, or up to and with an escaped
break. -/
def doublePart : Nat → Cursor → Option (List Char × PartEnd × Cursor)
  | 0, c => some ([], .plain, c)
  | fuel + 1, c =>
    match c.rest with
    | [] => some ([], .plain, c)
    | '\\' :: r =>
      if r.head?.any isBreak then some ([], .escapedBreak, (c.advance 1).readBreak.2)
      else
        match readEscape r with
        | some (e, n) =>
          (doublePart fuel (c.advance (n + 1))).map fun (part, rest) => (e :: part, rest)
        | none => none
    | x :: _ =>
      if x == '"' || isBlank x || isBreak x then some ([], .plain, c)
      else (doublePart fuel (c.advance 1)).map fun (part, rest) => (x :: part, rest)

/-- The part of a quoted scalar up to the next gap or quote. -/
def quotedPart (quote : Char) (c : Cursor) : Option (List Char × PartEnd × Cursor) :=
  if quote = '"' then doublePart (c.rest.length + 1) c
  else
    let (part, n) := singlePart c.rest
    some (part, .plain, c.advance n)

/-- Reads a quoted scalar after its opening quote. -/
def readQuoted (quote : Char) : Nat → List Char → Cursor → Option (List Char × Cursor)
  | 0, _, _ => none
  | fuel + 1, done, c =>
    if c.isAtBoundary || c.rest = [] then none
    else
      match quotedPart quote c with
      | none => none
      | some (part, ending, c) =>
        if c.isAt quote then some (done ++ part, c.advance 1)
        else
          let g : Gap := if ending = .escapedBreak then .breaks [] [] else .blanks []
          match readGap 0 (c.rest.length + 1) g c with
          | none => none
          | some (g, c) => readQuoted quote fuel (done ++ part ++ g.fold) c

/-! ## Block scalars -/

/-- What happens to the breaks at the end of a block scalar. -/
inductive Chomping where
  /-- The last break stays. -/
  | clip
  /-- No break stays. -/
  | strip
  /-- All breaks stay. -/
  | keep
deriving DecidableEq

/-- The chomping that a character indicates. -/
def Chomping.ofChar? : Char → Option Chomping
  | '+' => some .keep
  | '-' => some .strip
  | _ => none

/-- The digit of an indentation that a character indicates. -/
def indentDigit? (c : Char) : Option Nat := if c.isDigit then some (c.toNat - '0'.toNat) else none

/-- Reads the indicators of a block scalar, in either order: the chomping, and the indentation,
which is zero when it is left open and must not be written as zero. -/
def readHeader (c : Cursor) : Option (Chomping × Nat × Cursor) :=
  let digit (c : Cursor) : Option (Nat × Cursor) :=
    match c.head?.bind indentDigit? with
    | some 0 => none
    | some n => some (n, c.advance 1)
    | none => some (0, c)
  match c.head?.bind Chomping.ofChar? with
  | some chomping => (digit (c.advance 1)).map fun (n, c) => (chomping, n, c)
  | none =>
    (digit c).map fun (n, d) =>
      if n = 0 then (.clip, 0, d)
      else
        match d.head?.bind Chomping.ofChar? with
        | some chomping => (chomping, n, d.advance 1)
        | none => (.clip, n, d)

/-- Reads the empty lines of a block scalar and the indentation of the next line, up to the column
`indent`, or all of it while that is still zero. The answer holds the breaks and the greatest
column. -/
def readEmptyLines (indent : Nat) :
    Nat → List Char → Nat → Cursor → Option (List Char × Nat × Cursor)
  | 0, done, deepest, c => some (done, deepest, c)
  | fuel + 1, done, deepest, c =>
    let spaces := (c.rest.takeWhile (· == ' ')).length
    let c := c.advance (if indent = 0 then spaces else min spaces (indent - c.column))
    let deepest := max deepest c.column
    if (indent = 0 || c.column < indent) && c.isAt '\t' then none
    else if c.head?.any isBreak then
      let (b, c) := c.readBreak
      readEmptyLines indent fuel (done ++ b) deepest c
    else some (done, deepest, c)

/-- What stands between two lines of a block scalar: the break after the first and those of the
empty lines. In a folded block the break gives way, unless one of the lines starts with a blank. -/
def joinLines (folded blank : Bool) (first more : List Char) : List Char :=
  if folded && first.head? == some '\n' && !blank then if more = [] then [' '] else more
  else first ++ more

/-- Reads the lines of a block scalar. `first` is the break after the last line, `more` are those of
the empty lines, and `blank` tells whether the last line started with a blank. -/
def readLines (folded : Bool) (indent : Nat) : Nat → (done first more : List Char) →
    (blank : Bool) → Cursor → Option (List Char × List Char × List Char × Cursor)
  | 0, done, first, more, _, c => some (done, first, more, c)
  | fuel + 1, done, first, more, blank, c =>
    if c.column ≠ indent || c.rest = [] then some (done, first, more, c)
    else
      let isBlankLine := c.head?.any isBlank
      let done := done ++ joinLines folded (blank || isBlankLine) first more
      let (line, c) := c.takeWhile fun x => !isBreak x
      let (first, c) := c.readBreak
      match readEmptyLines indent (c.rest.length + 1) [] 0 c with
      | none => none
      | some (more, _, c) => readLines folded indent fuel (done ++ line) first more isBlankLine c

/-- Reads a block scalar after its first indicator. `least` is the least column of its lines. -/
def readBlock (folded : Bool) (least : Nat) (c : Cursor) : Option (List Char × Cursor) := do
  let (chomping, increment, c) ← readHeader c
  let c ← c.finishLine?
  let given := if increment = 0 then 0 else least - 1 + increment
  let (more, deepest, c) ← readEmptyLines given (c.rest.length + 1) [] 0 c
  let indent := if given = 0 then max (max deepest least) 1 else given
  let (done, first, more, c) ← readLines folded indent (c.rest.length + 1) [] [] more false c
  let ending := match chomping with
    | .strip => []
    | .clip => first
    | .keep => first ++ more
  return (done ++ ending, c)

end GridRules.Yaml
