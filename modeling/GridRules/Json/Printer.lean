import GridRules.Double.Shortest
import GridRules.Json.Value

/-!
# JSON text

Values as compact text, without white space, and as text indented by two spaces. The fields of an
object are written in the order in which they are stored.
-/

namespace GridRules

namespace Double

/-- The exponent of a double in scientific notation is written from ten to the power of 16 up and
below ten to the power of minus 5; between them the text is positional. -/
def isPlainExponent (exponent : Int) : Bool := -5 ≤ exponent && exponent < 16

/-- A positive decimal as a JSON number: positional with a fraction, or scientific with the sign of
the exponent. -/
def decimalJson (d : Decimal) : List Char :=
  let ds := d.digits
  let exponent : Int := d.exponent + ds.length - 1
  if isPlainExponent exponent then
    if 0 ≤ d.exponent then d.positional ++ ['.', '0'] else d.positional
  else
    let mantissa := match ds with
      | [] => []
      | [c] => [c]
      | c :: r => c :: '.' :: r
    mantissa ++ 'e' :: (if exponent < 0 then '-' else '+') :: Text.digits exponent.natAbs

/-- A finite magnitude as a JSON number, zero being `0.0`. Halfway between two numbers with the
shortest digits it is written with the even one. -/
def magnitudeJson (m : Magnitude) : List Char :=
  if m.rank = 0 then ['0', '.', '0'] else decimalJson (m.shortest .even)

example : magnitudeJson (.ofRank (nearestRank (112589990684262425 * unitsPerOne) 100)) =
    "1125899906842624.2".toList := by
  decide +kernel

end Double

/-- The JSON text of a number. -/
def Number.text : Number → List Char
  | integer n _ => Text.ofInt n
  | real negative m _ => if negative then '-' :: Double.magnitudeJson m else Double.magnitudeJson m

namespace Value

/-- A character inside a JSON string. Quotes, backslashes and control characters are escaped, the
control characters without a letter of their own by four hexadecimal digits. -/
def escapeChar (c : Char) : List Char :=
  if c = '"' then ['\\', '"']
  else if c = '\\' then ['\\', '\\']
  else if c = '\n' then ['\\', 'n']
  else if c = '\r' then ['\\', 'r']
  else if c = '\t' then ['\\', 't']
  else if c = '\x08' then ['\\', 'b']
  else if c = '\x0c' then ['\\', 'f']
  else if c.toNat < 0x20 then
    ['\\', 'u', '0', '0', Nat.digitChar (c.toNat / 16), Nat.digitChar (c.toNat % 16)]
  else [c]

/-- A text as a JSON string with its quotes. -/
def quoted (s : String) : List Char := '"' :: s.toList.flatMap escapeChar ++ ['"']

mutual

/-- The compact JSON text of a value, as characters. -/
def compact : Value → List Char
  | .null => "null".toList
  | .bool true => "true".toList
  | .bool false => "false".toList
  | .number n => n.text
  | .string s => quoted s
  | .array items => '[' :: [','].intercalate (compactItems items) ++ [']']
  | .object fields => '\x7b' :: [','].intercalate (compactFields fields) ++ ['\x7d']

/-- The compact texts of the items of a list. -/
def compactItems : List Value → List (List Char)
  | [] => []
  | v :: r => compact v :: compactItems r

/-- The compact texts of the fields of an object. -/
def compactFields : List (String × Value) → List (List Char)
  | [] => []
  | (n, v) :: r => (quoted n ++ ':' :: compact v) :: compactFields r

end

/-- The compact JSON text of a value. -/
def render (v : Value) : String := String.ofList v.compact

/-- A new line at a depth of indentation. -/
def newLine (depth : Nat) : List Char := '\n' :: List.replicate (2 * depth) ' '

mutual

/-- The indented JSON text of a value at a depth. -/
def indented (depth : Nat) : Value → List Char
  | .array (v :: r) =>
    '[' :: indentedItems (depth + 1) (v :: r) ++ newLine depth ++ [']']
  | .object (e :: r) =>
    '\x7b' :: indentedFields (depth + 1) (e :: r) ++ newLine depth ++ ['\x7d']
  | v => compact v

/-- The items of a list, each on a line of its own. -/
def indentedItems (depth : Nat) : List Value → List Char
  | [] => []
  | [v] => newLine depth ++ indented depth v
  | v :: r => newLine depth ++ indented depth v ++ ',' :: indentedItems depth r

/-- The fields of an object, each on a line of its own. -/
def indentedFields (depth : Nat) : List (String × Value) → List Char
  | [] => []
  | [(n, v)] => newLine depth ++ quoted n ++ ':' :: ' ' :: indented depth v
  | (n, v) :: r =>
    newLine depth ++ quoted n ++ ':' :: ' ' :: indented depth v ++ ',' :: indentedFields depth r

end

/-- The JSON text of a value, indented by two spaces. -/
def renderIndented (v : Value) : String := String.ofList (indented 0 v)

end Value

end GridRules
