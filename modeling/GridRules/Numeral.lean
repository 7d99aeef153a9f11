import GridRules.Double.Rounding
import GridRules.Text.Digits

/-!
# Decimal numerals

A numeral is an optional sign, digits with an optional fraction (or a fraction alone) and an
optional exponent: `-12`, `+1.`, `.5`, `1.5e-3`. `Numeral.read?` takes the longest numeral at the
front of a text, and `Numeral.toDouble` is the double nearest to what it denotes.
-/

namespace GridRules

/-- A numeral, taken apart. -/
structure Numeral where
  /-- Whether a minus sign stands in front. -/
  negative : Bool
  /-- The digits before the point. -/
  whole : List Char
  /-- The digits after the point. -/
  fraction : List Char
  /-- The power of ten that multiplies the number. -/
  exponent : Int
deriving DecidableEq

namespace Numeral

/-- The number that all digits denote when the point is left out. -/
def coefficient (n : Numeral) : Nat := Text.ofDigits (n.whole ++ n.fraction)

/-- The power of ten that belongs to the coefficient. -/
def scale (n : Numeral) : Int := n.exponent - n.fraction.length

/-- The double nearest to the number, infinity beyond the range of doubles. -/
def toDouble (n : Numeral) : Double := Double.ofDecimal n.negative n.coefficient n.scale

/-- An optional sign at the front of a text: whether it is a minus, and the rest. -/
def readSign : List Char → Bool × List Char
  | '-' :: r => (true, r)
  | '+' :: r => (false, r)
  | s => (false, s)

/-- An optional fraction at the front of a text: a point and any number of digits. -/
def readFraction : List Char → List Char × List Char
  | '.' :: r => Text.digitRun r
  | s => ([], s)

/-- An optional exponent at the front of a text: the letter, an optional sign and at least one
digit. Without a digit there is no exponent, and the letter stays in the rest. -/
def readExponent (s : List Char) : Int × List Char :=
  match s with
  | [] => (0, [])
  | c :: r =>
    if c = 'e' ∨ c = 'E' then
      let (negative, t) := readSign r
      let (ds, rest) := Text.digitRun t
      if ds = [] then (0, s)
      else (if negative then -(Text.ofDigits ds : Int) else Text.ofDigits ds, rest)
    else (0, s)

/-- The longest numeral at the front of a text, and the rest; `none` when no digit comes before or
right after the point. -/
def read? (s : List Char) : Option (Numeral × List Char) :=
  let (negative, s) := readSign s
  let (whole, s) := Text.digitRun s
  let (fraction, s) := readFraction s
  if whole = [] ∧ fraction = [] then none
  else
    let (exponent, s) := readExponent s
    some (⟨negative, whole, fraction, exponent⟩, s)

/-- The numeral that is the whole text. -/
def ofText? (s : List Char) : Option Numeral :=
  match read? s with
  | some (n, []) => some n
  | _ => none

example : (ofText? "-1.5e3".toList).map toDouble = some (Double.ofInt (-1500)) := by decide +kernel

example : ofText? "1e".toList = none := by decide +kernel

end Numeral

end GridRules
