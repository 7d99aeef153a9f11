import GridRules.Date.Basic
import GridRules.Error
import GridRules.Text.White

/-!
# Notations of a day

The ways in which a day may be written: year, month and day, with or without a time, with or without
an offset from Greenwich, or day, month and year with points. A notation is a list of items that are
read from left to right. A time is checked and dropped, and so is an offset: the day is the one that
is written.
-/

namespace GridRules

/-- The parts of a day and of a time. -/
inductive Part where
  /-- The year. -/
  | year
  /-- The month. -/
  | month
  /-- The day of the month. -/
  | day
  /-- The hour. -/
  | hour
  /-- The minute. -/
  | minute
  /-- The second. -/
  | second
deriving DecidableEq

/-- An item of a notation. -/
inductive Item where
  /-- A number after optional white space. A year has up to four digits, or a sign and any number of
  digits; every other part has one or two digits. -/
  | number (part : Part)
  /-- A number of exactly so many digits. -/
  | exact (part : Part) (digits : Nat)
  /-- One of the given characters. -/
  | oneOf (chars : List Char)
  /-- Any amount of white space, also none. -/
  | blank
  /-- Nothing, or a point with at least one digit. -/
  | fraction
  /-- The letter of Greenwich time, or a sign with hours and minutes. -/
  | offset
deriving DecidableEq

/-- A day with a time as it is read, before it is known to exist. -/
structure Moment where
  /-- The year. -/
  year : Int
  /-- The month. -/
  month : Nat
  /-- The day of the month. -/
  day : Nat
  /-- The hour. -/
  hour : Nat
  /-- The minute. -/
  minute : Nat
  /-- The second. -/
  second : Nat
deriving DecidableEq

namespace Moment

/-- The moment before anything is read. -/
def start : Moment := ⟨0, 0, 0, 0, 0, 0⟩

/-- The moment with a part set. Only a year can be negative. -/
def set (m : Moment) (part : Part) (n : Int) : Moment :=
  match part with
  | .year => { m with year := n }
  | .month => { m with month := n.toNat }
  | .day => { m with day := n.toNat }
  | .hour => { m with hour := n.toNat }
  | .minute => { m with minute := n.toNat }
  | .second => { m with second := n.toNat }

/-- The day of a moment that exists. The second sixty is a leap second. -/
def date? (m : Moment) : Option Date :=
  if m.hour < 24 ∧ m.minute < 60 ∧ m.second ≤ 60 then Date.ofParts? m.year m.month m.day else none

end Moment

namespace Item

/-- At least one and at most `width` digits at the front of a text: their number and the rest. -/
def digitsUpTo? (width : Nat) (s : List Char) : Option (Nat × List Char) :=
  let ds := (s.take width).takeWhile Char.isDigit
  if ds = [] then none else some (Text.ofDigits ds, s.drop ds.length)

/-- Exactly `width` digits at the front of a text. -/
def digitsExactly? (width : Nat) (s : List Char) : Option (Nat × List Char) :=
  let ds := (s.take width).takeWhile Char.isDigit
  if ds.length = width then some (Text.ofDigits ds, s.drop width) else none

/-- The number of a part at the front of a text that does not start with white space. -/
def partNumber? (part : Part) (s : List Char) : Option (Int × List Char) :=
  match part, s with
  | .year, '-' :: r => (digitsUpTo? r.length r).map fun (n, rest) => (-(n : Int), rest)
  | .year, '+' :: r => (digitsUpTo? r.length r).map fun (n, rest) => ((n : Int), rest)
  | .year, s => (digitsUpTo? 4 s).map fun (n, rest) => ((n : Int), rest)
  | _, s => (digitsUpTo? 2 s).map fun (n, rest) => ((n : Int), rest)

/-- The rest after an offset: hours below 24 and minutes below 60, after a plus, a hyphen or a
minus. -/
def afterOffset? (s : List Char) : Option (List Char) :=
  match s with
  | 'Z' :: r => some r
  | 'z' :: r => some r
  | c :: r =>
    if c = '+' ∨ c = '-' ∨ c = '−' then
      match digitsExactly? 2 r with
      | some (hours, ':' :: t) =>
        match digitsExactly? 2 t with
        | some (minutes, rest) => if hours < 24 ∧ minutes < 60 then some rest else none
        | none => none
      | _ => none
    else none
  | [] => none

/-- Reads an item at the front of a text into a moment. -/
def read? (item : Item) (m : Moment) (s : List Char) : Option (Moment × List Char) :=
  match item with
  | number part => (partNumber? part (Text.trimStart s)).map fun (n, rest) => (m.set part n, rest)
  | exact part width => (digitsExactly? width s).map fun (n, rest) => (m.set part n, rest)
  | oneOf chars =>
    match s with
    | c :: r => if c ∈ chars then some (m, r) else none
    | [] => none
  | blank => some (m, Text.trimStart s)
  | fraction =>
    match s with
    | '.' :: r =>
      let (ds, rest) := Text.digitRun r
      if ds = [] then none else some (m, rest)
    | s => some (m, s)
  | offset => (afterOffset? s).map fun rest => (m, rest)

end Item

/-- A way to write a day: its items in order. -/
abbrev Notation := List Item

namespace Notation

/-- Reads the items of a notation; the whole text has to be used. -/
def moment? : Notation → Moment → List Char → Option Moment
  | [], m, s => if s = [] then some m else none
  | item :: items, m, s =>
    match item.read? m s with
    | some (m, rest) => moment? items m rest
    | none => none

/-- The day that a text writes in a notation. -/
def date? (items : Notation) (s : List Char) : Option Date :=
  (moment? items .start s).bind Moment.date?

/-- The items of a day with hyphens. -/
def day : Notation :=
  [.number .year, .oneOf ['-'], .number .month, .oneOf ['-'], .number .day]

/-- The items of an hour and a minute. -/
def time : Notation := [.number .hour, .oneOf [':'], .number .minute]

/-- The items of a second after a colon. -/
def seconds : Notation := [.oneOf [':'], .number .second]

/-- A day with a time and an offset, every number in full width. -/
def withOffset : Notation :=
  [.exact .year 4, .oneOf ['-'], .exact .month 2, .oneOf ['-'], .exact .day 2,
    .oneOf ['T', 't', ' '], .exact .hour 2, .oneOf [':'], .exact .minute 2, .oneOf [':'],
    .exact .second 2, .fraction, .offset]

/-- A day, month and year with points. -/
def pointed : Notation :=
  [.number .day, .oneOf ['.'], .number .month, .oneOf ['.'], .number .year]

/-- The notations in the order in which they are tried. -/
def all : List Notation :=
  [day, withOffset, day ++ [.oneOf ['T']] ++ time ++ seconds ++ [.fraction],
    day ++ [.oneOf ['T']] ++ time, day ++ [.blank] ++ time ++ seconds, pointed]

end Notation

namespace Date

/-- The day that a trimmed text writes. -/
def ofTrimmed? (s : List Char) : Option Date := Notation.all.findSome? (Notation.date? · s)

/-- The day that a text writes, white space around it aside. -/
def ofChars (s : List Char) : Except DateError Date :=
  let t := Text.trim s
  match ofTrimmed? t with
  | some d => .ok d
  | none => .error (.invalidDate (String.ofList t))

/-- The day that a text writes, white space around it aside. -/
def ofText (text : String) : Except DateError Date := ofChars text.toList

end Date

end GridRules
