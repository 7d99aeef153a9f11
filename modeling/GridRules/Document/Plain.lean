import GridRules.Json.Value
import GridRules.Numeral
import GridRules.Value.Coercion

/-!
# Plain scalars

A scalar that is written without quotes has no type of its own: what it denotes follows from its
text, by the core schema of YAML 1.2. Null, truth values, whole numbers in four notations and
decimal numbers are recognised; any other text denotes itself.
-/

namespace GridRules.Plain

/-- Whether a text is a spelling of null, the empty text included. -/
def isNull (s : String) : Bool := s == "" || s == "~" || s == "null" || s == "Null" || s == "NULL"

/-- The truth value that a text spells. -/
def bool? (s : String) : Option Bool :=
  if s == "true" || s == "True" || s == "TRUE" then some true
  else if s == "false" || s == "False" || s == "FALSE" then some false
  else none

/-- Whether a text is a number of two digits or more that starts with a zero, after an optional
sign; such a text denotes itself. -/
def hasLeadingZero (s : List Char) : Bool :=
  let ds := match s with
    | '+' :: r => r
    | '-' :: r => r
    | s => s
  match ds with
  | '0' :: c :: r => (c :: r).all Char.isDigit
  | _ => false

/-- Whether a text starts with a sign. -/
def startsSigned : List Char → Bool
  | '+' :: _ => true
  | '-' :: _ => true
  | _ => false

/-- The digits of a radix, at least one, as a number. -/
def radixDigits? (radix : Nat) (ds : List Char) : Option Nat :=
  if ds = [] then none else ofRadixDigits? radix 0 ds

/-- The whole number that unsigned text denotes: digits, or digits of a radix after `0x`, `0o` or
`0b`. -/
def natural? (s : List Char) : Option Nat :=
  let byRadix := match s with
    | '0' :: 'x' :: r => radixDigits? 16 r
    | '0' :: 'o' :: r => radixDigits? 8 r
    | '0' :: 'b' :: r => radixDigits? 2 r
    | _ => none
  match byRadix with
  | some n => some n
  | none => if hasLeadingZero s then none else radixDigits? 10 s

/-- The whole number that a text denotes. -/
def int? (s : List Char) : Option Int :=
  match s with
  | '-' :: r => if startsSigned r then none else (natural? r).map fun n => -(n : Int)
  | '+' :: r => if startsSigned r then none else (natural? r).map fun n => (n : Int)
  | _ => (natural? s).map fun n => (n : Int)

/-- The double that a text denotes when it is no whole number: a finite decimal number, an infinity
or the value that is not a number. -/
def double? (s : List Char) : Option Double :=
  let t := match s with
    | '+' :: r => r
    | s => s
  let isPositive := s.head? == some '+'
  if isPositive && startsSigned t then none
  else if t = ".inf".toList ∨ t = ".Inf".toList ∨ t = ".INF".toList then some (.infinity false)
  else if s = "-.inf".toList ∨ s = "-.Inf".toList ∨ s = "-.INF".toList then some (.infinity true)
  else if s = ".nan".toList ∨ s = ".NaN".toList ∨ s = ".NAN".toList then some .nan
  else ((Numeral.ofText? t).map Numeral.toDouble).filter Double.isFinite

/-- Whether a whole number fits 128 bits, signed or unsigned. -/
def fits128 (n : Int) : Bool :=
  -0x80000000000000000000000000000000 ≤ n && n < 0x100000000000000000000000000000000

/-- The JSON value that a plain scalar denotes. A whole number beyond 64 bits but within 128 has
none; a number that is not finite is null. -/
def value? (s : String) : Option Value :=
  let cs := s.toList
  if isNull s then some .null
  else
    match bool? s with
    | some b => some (.bool b)
    | none =>
      match (int? cs).filter fits128 with
      | some n => (Number.ofInt? n).map .number
      | none =>
        if hasLeadingZero cs then some (.string s)
        else
          match double? cs with
          | some x =>
            match Number.ofDouble? x with
            | some n => some (.number n)
            | none => some .null
          | none => some (.string s)

end GridRules.Plain
