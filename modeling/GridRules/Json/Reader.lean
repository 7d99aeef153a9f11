import GridRules.Document.Basic
import GridRules.Json.Literal

/-!
# Reading JSON

`Json.document` reads a text to a document and never fails: where the text goes wrong, the document
is cut, and a decoder that comes there reports it. `Json.decode` runs a decoder on the document and
then insists that nothing but white space follows.
-/

namespace GridRules.Json

/-- Lists and mappings may be nested to this depth. -/
def depthLimit : Nat := 127

/-- The white space of JSON. -/
def isBlank (c : Char) : Bool := c == ' ' || c == '\n' || c == '\t' || c == '\r'

/-- The text from its first character that is not blank. -/
def skipBlank (s : List Char) : List Char := s.dropWhile isBlank

/-- A part of a document and the text after it, `none` when the text could not be followed to the
end of the part. -/
abbrev Part := Document × Option (List Char)

/-- A part that is cut at once. -/
def cutPart (reason : ReadError) : Part := (.cut reason, none)

/-- Reads the rest of a word that stands for a document. -/
def readWord (d : Document) : List Char → List Char → Part
  | [], s => (d, some s)
  | _ :: _, [] => cutPart .unfinished
  | w :: ws, c :: r => if w = c then readWord d ws r else cutPart .malformed

/-- The four hexadecimal digits of an escape: their number and the rest, or why there is none. -/
def readHex (s : List Char) : Except ReadError (Nat × List Char) :=
  match s with
  | a :: b :: c :: d :: r =>
    match ofRadixDigits? 16 0 [a, b, c, d] with
    | some n => .ok (n, r)
    | none => .error .malformed
  | _ => .error (if 4 ≤ (String.ofList s).utf8ByteSize then .malformed else .unfinished)

/-- The character that a one-letter escape stands for. -/
def simpleEscape? : Char → Option Char
  | '"' => some '"'
  | '\\' => some '\\'
  | '/' => some '/'
  | 'b' => some '\x08'
  | 'f' => some '\x0c'
  | 'n' => some '\n'
  | 'r' => some '\r'
  | 't' => some '\t'
  | _ => none

/-- Whether a number is the first half of a surrogate pair. -/
def isHighSurrogate (n : Nat) : Bool := 0xD800 ≤ n && n ≤ 0xDBFF

/-- Whether a number is the second half of a surrogate pair. -/
def isLowSurrogate (n : Nat) : Bool := 0xDC00 ≤ n && n ≤ 0xDFFF

/-- The character of a surrogate pair. -/
def pairChar (high low : Nat) : Char :=
  Char.ofNat (0x10000 + (high - 0xD800) * 0x400 + (low - 0xDC00))

/-- What a string amounts to: as it is, or suspect when it holds half a surrogate pair. -/
def weigh (whole : Bool) (d : Document) : Document := if whole then d else .suspect .malformed d

/-- Reads a string after its opening quote. `whole` says that no half of a surrogate pair stands
alone so far, and `done` holds the characters so far, the last one first. The fuel is at least the
length of the text. -/
def readString (whole : Bool) (done : List Char) : Nat → List Char → Part
  | 0, _ => (weigh whole (.cut .unfinished), none)
  | _ + 1, [] => (weigh whole (.cut .unfinished), none)
  | fuel + 1, c :: r =>
    if c = '"' then (weigh whole (.text (String.ofList done.reverse)), some r)
    else if c = '\\' then
      match r with
      | [] => (weigh whole (.cut .unfinished), none)
      | 'u' :: t =>
        match readHex t with
        | .error reason => (weigh whole (.cut reason), none)
        | .ok (n, t) =>
          if isLowSurrogate n then readString false done fuel t
          else if isHighSurrogate n then
            match t with
            | '\\' :: 'u' :: u =>
              match readHex u with
              | .error reason => (weigh whole (.cut reason), none)
              | .ok (m, u) =>
                if isLowSurrogate m then readString whole (pairChar n m :: done) fuel u
                else readString false done fuel u
            | [] => (weigh whole (.cut .unfinished), none)
            | ['\\'] => (weigh whole (.cut .unfinished), none)
            | t => readString false done fuel t
          else readString whole (Char.ofNat n :: done) fuel t
      | e :: t =>
        match simpleEscape? e with
        | some e => readString whole (e :: done) fuel t
        | none => (weigh whole (.cut .malformed), none)
    else if c.toNat < 0x20 then (weigh whole (.cut .malformed), none)
    else readString whole (c :: done) fuel r

/-- Reads a string that starts with its quote; anything else is refused with `otherwise`. -/
def readQuoted (otherwise : ReadError) : List Char → Part
  | '"' :: r => readString true [] (r.length + 1) r
  | _ => cutPart otherwise

/-- The refusal where a digit is needed. -/
def needDigit : List Char → ReadError
  | [] => .unfinished
  | _ :: _ => .malformed

/-- The document of a number literal; one beyond the doubles is suspect. -/
def numberDocument : Option Number → Document
  | some n => .number n
  | none => .suspect .malformed .null

/-- Reads the exponent of a number after its letter and gives the number to `finish`. -/
def readPower (finish : Int → Option Number) (s : List Char) : Part :=
  let (negative, s) := Numeral.readSign s
  let (ds, rest) := Text.digitRun s
  if ds = [] then cutPart (needDigit s)
  else
    let n : Int := Text.ofDigits ds
    (numberDocument (finish (if negative then -n else n)), some rest)

/-- Reads what follows the digits before and after the point: an exponent or nothing. -/
def readTail (negative : Bool) (whole fraction : List Char) (s : List Char) : Part :=
  let finish := Literal.double? negative whole fraction
  match s with
  | 'e' :: r => readPower finish r
  | 'E' :: r => readPower finish r
  | s =>
    let number := if fraction = [] then Literal.integer? negative whole else finish 0
    (numberDocument number, some s)

/-- Reads a number after its sign. A zero in front stands alone, and a point needs a digit
after it. -/
def readNumber (negative : Bool) (s : List Char) : Part :=
  let (whole, rest) := Text.digitRun s
  match whole with
  | [] => cutPart (needDigit s)
  | '0' :: _ :: _ => cutPart .malformed
  | _ =>
    match rest with
    | '.' :: r =>
      let (fraction, rest) := Text.digitRun r
      if fraction = [] then cutPart (needDigit r) else readTail negative whole fraction rest
    | rest => readTail negative whole [] rest

/-- What a part that is nested too deep amounts to. -/
def nest (depth : Nat) (d : Document) : Document :=
  if depth = 0 then .suspect .malformed d else d

mutual

/-- Reads a value. `depth` is the number of levels that may still be opened. The fuel bounds the
number of steps; twice the length of the text suffices. -/
def readValue (depth : Nat) : Nat → List Char → Part
  | 0, _ => cutPart .unfinished
  | fuel + 1, s =>
    match skipBlank s with
    | [] => cutPart .unfinished
    | 'n' :: r => readWord .null "ull".toList r
    | 't' :: r => readWord (.bool true) "rue".toList r
    | 'f' :: r => readWord (.bool false) "alse".toList r
    | '"' :: r => readString true [] (r.length + 1) r
    | '-' :: r => readNumber true r
    | '[' :: r =>
      let (items, rest) := readItems (depth - 1) true fuel r
      (nest depth (.list items), rest)
    | c :: r =>
      if c = '\x7b' then
        let (entries, rest) := readEntries (depth - 1) true fuel r
        (nest depth (.table entries), rest)
      else if c.isDigit then readNumber false (c :: r)
      else cutPart .malformed

/-- Reads the items of a list up to its bracket; all but the first follow a comma. -/
def readItems (depth : Nat) (first : Bool) : Nat → List Char → List Document × Option (List Char)
  | 0, _ => ([.cut .unfinished], none)
  | fuel + 1, s =>
    let item (s : List Char) :=
      match readValue depth fuel s with
      | (d, none) => ([d], none)
      | (d, some rest) =>
        let (items, rest) := readItems depth false fuel rest
        (d :: items, rest)
    match skipBlank s with
    | [] => ([.cut .unfinished], none)
    | ']' :: r => ([], some r)
    | c :: r =>
      if first then item (c :: r)
      else if c = ',' then
        match skipBlank r with
        | [] => ([.cut .unfinished], none)
        | ']' :: _ => ([.cut .malformed], none)
        | r => item r
      else ([.cut .malformed], none)

/-- Reads the entries of a mapping up to its brace; all but the first follow a comma. -/
def readEntries (depth : Nat) (first : Bool) :
    Nat → List Char → List (Document × Document) × Option (List Char)
  | 0, _ => ([(.cut .unfinished, .cut .unfinished)], none)
  | fuel + 1, s =>
    let stop (reason : ReadError) : List (Document × Document) × Option (List Char) :=
      ([(.cut reason, .cut reason)], none)
    let entry (s : List Char) :=
      match readQuoted .malformed s with
      | (k, none) => ([(k, .cut .malformed)], none)
      | (k, some rest) =>
        match skipBlank rest with
        | [] => ([(k, .cut .unfinished)], none)
        | ':' :: r =>
          match readValue depth fuel r with
          | (d, none) => ([(k, d)], none)
          | (d, some rest) =>
            let (entries, rest) := readEntries depth false fuel rest
            ((k, d) :: entries, rest)
        | _ => ([(k, .cut .malformed)], none)
    match skipBlank s with
    | [] => stop .unfinished
    | c :: r =>
      if c = '\x7d' then ([], some r)
      else if first then entry (c :: r)
      else if c = ',' then
        match skipBlank r with
        | [] => stop .unfinished
        | r => entry r
      else stop .malformed

end

/-- The document of a text, and whether only white space follows it. -/
def document (text : String) : Document × Bool :=
  let s := text.toList
  match readValue depthLimit (2 * s.length + 2) s with
  | (d, some rest) => (d, (skipBlank rest).isEmpty)
  | (d, none) => (d, true)

/-- Decodes the document of a text. A problem inside the document comes before one after it. -/
def decode {α : Type} (decoder : Document → Except ReadError α) (text : String) :
    Except ReadError α :=
  let (d, alone) := document text
  match decoder d with
  | .error e => .error e
  | .ok a => if alone then .ok a else .error .malformed

/-- The value of a text. -/
def parse (text : String) : Except ReadError Value := decode Document.toValue text

end GridRules.Json
