import GridRules.Double.Shortest
import GridRules.Json.Value
import GridRules.Numeral
import GridRules.Text.White

/-!
# Coercion

How a value counts as a truth value, as a number and as a text. Lists and objects count as their
display text wherever a primitive is needed; `Value.primitive` makes that step once, and the numeric
reading, the loose comparisons and the sort order all start from it.
-/

namespace GridRules

/-- The value of an ASCII letter or digit as a digit, up to thirty-five. -/
def letterDigit? (c : Char) : Option Nat :=
  if c.isDigit then some (c.toNat - '0'.toNat)
  else if 'a' ≤ c ∧ c ≤ 'z' then some (c.toNat - 'a'.toNat + 10)
  else if 'A' ≤ c ∧ c ≤ 'Z' then some (c.toNat - 'A'.toNat + 10)
  else none

/-- The number that a list of digits of a radix denotes, after `acc`; `none` at any
other character. -/
def ofRadixDigits? (radix acc : Nat) : List Char → Option Nat
  | [] => some acc
  | c :: r =>
    match letterDigit? c with
    | some d => if d < radix then ofRadixDigits? radix (acc * radix + d) r else none
    | none => none

/-- An unsigned 64-bit number written in a radix, with an optional plus sign and at least
one digit. -/
def radixNumber? (radix : Nat) (s : List Char) : Option Nat :=
  let ds := match s with
    | '+' :: r => r
    | s => s
  if ds = [] then none
  else (ofRadixDigits? radix 0 ds).filter (· < 0x10000000000000000)

/-- The radix that the first two characters of a literal announce. -/
def radixOf? : Char → Option Nat
  | 'x' | 'X' => some 16
  | 'o' | 'O' => some 8
  | 'b' | 'B' => some 2
  | _ => none

/-- The number that a trimmed, nonempty text denotes: an infinity, a literal with a radix or a
decimal numeral. Any other text is not a number. -/
def numberOfLiteral (s : List Char) : Double :=
  if s = "Infinity".toList ∨ s = "+Infinity".toList then .infinity false
  else if s = "-Infinity".toList then .infinity true
  else
    let radix := match s with
      | '0' :: c :: _ => radixOf? c
      | _ => none
    match radix with
    | some radix =>
      match radixNumber? radix (s.drop 2) with
      | some n => .ofInt n
      | none => .nan
    | none =>
      match Numeral.ofText? s with
      | some n => n.toDouble
      | none => .nan

/-- The number that a text denotes after trimming; blank text denotes zero. -/
def numberOfText (s : List Char) : Double :=
  let t := Text.trim s
  if t = [] then .zero else numberOfLiteral t

/-- What a value is when it meets a number or a text. -/
inductive Primitive where
  /-- The null value. -/
  | null
  /-- A truth value. -/
  | bool (b : Bool)
  /-- A number, by its double. -/
  | number (x : Double)
  /-- A text. -/
  | text (s : String)
deriving DecidableEq

namespace Primitive

/-- The numeric reading: null is zero, truth values are zero and one. -/
def toDouble : Primitive → Double
  | null => .zero
  | bool b => .ofInt (if b then 1 else 0)
  | number x => x
  | text s => numberOfText s.toList

end Primitive

/-- The display text of a number. Whole numbers of a signed 64-bit integer are written exactly; all
others by their double, with the shortest digits and no exponent. -/
def Number.displayText : Number → List Char
  | integer n _ => if n < 0x8000000000000000 then Text.ofInt n else (Double.ofInt n).plainText
  | real negative m _ => (Double.signed negative m).plainText

namespace Value

mutual

/-- The display text of a value, as characters. A list is its items with commas between them. -/
def displayChars : Value → List Char
  | .null => "null".toList
  | .bool true => "true".toList
  | .bool false => "false".toList
  | .number n => n.displayText
  | .string s => s.toList
  | .array items => [','].intercalate (itemTexts items)
  | .object _ => "[object Object]".toList

/-- The display texts of the items of a list; a null item is empty there. -/
def itemTexts : List Value → List (List Char)
  | [] => []
  | .null :: r => [] :: itemTexts r
  | v :: r => displayChars v :: itemTexts r

end

/-- The display text of a value. -/
def displayText (v : Value) : String := String.ofList v.displayChars

/-- The primitive that a value counts as; a list or an object counts as its display text. -/
def primitive : Value → Primitive
  | .null => .null
  | .bool b => .bool b
  | .number n => .number n.toDouble
  | .string s => .text s
  | v => .text v.displayText

/-- The numeric reading of a value. -/
def toDouble (v : Value) : Double := v.primitive.toDouble

/-- Whether a value counts as true: null, false, zero, the empty text and the empty list do not. -/
def isTruthy : Value → Bool
  | .null => false
  | .bool b => b
  | .number n => !n.toDouble.isZero
  | .string s => !s.isEmpty
  | .array items => !items.isEmpty
  | .object _ => true

/-- Whether a value is a list or an object. -/
def isContainer : Value → Bool
  | .array _ | .object _ => true
  | _ => false

/-- The elements of a haystack: the items of a list or the characters of a text. -/
def sequence : Value → List Value
  | .array items => items
  | .string s => s.toList.map fun c => .string (String.singleton c)
  | _ => []

end Value

end GridRules
