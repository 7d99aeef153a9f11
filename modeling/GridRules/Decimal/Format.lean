import GridRules.Decimal.Settings
import GridRules.Double.Fixed
import GridRules.Numeral
import GridRules.Text.White

/-!
# Decimal text of a locale

Numbers as text with the separators of a locale, back from text to numbers, and the rules for text
that is being typed: which keys may change it, when it may be written anew, and where the cursor
goes then.
-/

namespace GridRules

/-- A way to write numbers: the separators of a locale and a number of decimal places. -/
structure DecimalFormat where
  /-- The country code by which the separators were chosen. -/
  countryCode : String
  /-- The number of decimal places. -/
  places : Nat
  /-- What stands between groups of three digits. -/
  thousands : Char
  /-- What stands before the fraction. -/
  decimal : Char
deriving DecidableEq

/-- A text with the cursor in it. -/
structure TextCursor where
  /-- The text. -/
  text : List Char
  /-- The number of characters before the cursor. -/
  cursor : Nat
deriving DecidableEq

/-- Digits in groups of three, counted from the end, with a separator between groups. -/
def groupDigits (separator : Char) : List Char → List Char
  | [] => []
  | c :: r =>
    if r ≠ [] ∧ r.length % 3 = 0 then c :: separator :: groupDigits separator r
    else c :: groupDigits separator r

/-- Digits without the zeros at their end. -/
def dropEndZeros (ds : List Char) : List Char := (ds.reverse.dropWhile (· == '0')).reverse

/-- The keys that move the cursor, end the editing or delete; they are never swallowed. -/
def navigationKeys : List String :=
  ["ArrowLeft", "ArrowRight", "ArrowUp", "ArrowDown", "PageDown", "PageUp", "Home", "End", "Escape",
    "Enter", "Backspace"]

namespace DecimalFormat

/-- The format of a country code with a number of places, of which no more than twenty count. -/
def new (countryCode : String) (places : Nat) : DecimalFormat :=
  let s := separatorsOf countryCode
  ⟨countryCode, min places maxDecimalPlaces, s.thousands, s.decimal⟩

/-- The format of the settings of a column. -/
def ofSettings (s : DecimalSettings) : DecimalFormat := new s.countryCode s.places.toNat

/-- The format where nothing is configured. -/
def default : DecimalFormat := ofSettings .default

/-- The text without thousands separators and with a point for the decimal separator. -/
def normalize (f : DecimalFormat) (s : List Char) : List Char :=
  (s.filter (· ≠ f.thousands)).map fun c => if c = f.decimal then '.' else c

/-- The number at the front of a text; what follows it is ignored. -/
def parse (f : DecimalFormat) (s : List Char) : Option Double :=
  (Numeral.read? (Text.trimStart (f.normalize s))).map fun (n, _) => n.toDouble

/-- The text of a number: rounded, in groups, without zeros at the end of the fraction and without a
sign on zero. -/
def format (f : DecimalFormat) (x : Double) : List Char :=
  match x with
  | .nan => "NaN".toList
  | .signed negative m =>
    if !m.isFinite then (if negative then ['-', '∞'] else ['∞'])
    else
      let whole := m.wholeDigits f.places
      let fraction := dropEndZeros (m.fractionDigits f.places)
      let isZero := whole.all (· == '0') && fraction.isEmpty
      let text := groupDigits f.thousands whole
      let text := if fraction = [] then text else text ++ f.decimal :: fraction
      if negative && !isZero then '-' :: text else text

/-- The text of the number at the front of a text; `none` when there is none. -/
def formatText (f : DecimalFormat) (s : List Char) : Option (List Char) := (f.parse s).map f.format

/-- The final numeral of a text with all decimal places, and a point whatever the locale. -/
def value (f : DecimalFormat) (s : List Char) : Option (List Char) :=
  (f.parse s).map (·.fixedText f.places)

/-- What follows the first decimal separator. -/
def fraction? (f : DecimalFormat) (s : List Char) : Option (List Char) :=
  match s.dropWhile (· ≠ f.decimal) with
  | [] => none
  | _ :: r => some r

/-- The number of characters after the decimal separator. -/
def countDecimals (f : DecimalFormat) (s : List Char) : Nat := ((f.fraction? s).getD []).length

/-- Whether a key may change a text. A fraction takes no more characters at its end than there are
places, and a second decimal separator, or one without places, is refused. -/
def isInputAllowed (f : DecimalFormat) (key : String) (current : List Char) (cursorAtEnd : Bool) :
    Bool :=
  if key ∈ navigationKeys then true
  else if cursorAtEnd && current.contains f.decimal && f.places ≤ f.countDecimals current then false
  else if key.toList = [f.decimal] ∧ (f.places = 0 ∨ f.decimal ∈ current) then false
  else key.toList.any fun c => c.isDigit || c == '.' || c == ',' || c == '-'

/-- Whether a text may be written anew without disturbing the one who types it. Half a number, such
as one that ends in a separator, or a zero just typed at the end of a fraction, is left alone. -/
def isFormattable (f : DecimalFormat) (current : List Char) (typed : Option String)
    (cursorAtEnd : Bool) : Bool :=
  if current = [] then false
  else if typed = some "0" ∧ cursorAtEnd ∧ 0 < f.countDecimals current then false
  else
    let unsigned := match current with
      | '-' :: r => r
      | s => s
    let whole := unsigned.takeWhile (· ≠ f.decimal)
    whole.all (fun c => c.isDigit || c == f.thousands)
      && (match f.fraction? unsigned with
        | none => true
        | some fraction => !fraction.isEmpty && fraction.all Char.isDigit)

/-- A text written anew where it may be; any other text stays. -/
def formatInput (f : DecimalFormat) (s : List Char) : List Char :=
  if f.isFormattable s none true then (f.formatText s).getD s else s

/-- The text and the cursor after an input. Text that is written anew keeps the cursor at its
distance from the end, or at the front when the text became too short for it. -/
def onInput (f : DecimalFormat) (current : List Char) (typed : Option String) (cursor : Nat) :
    TextCursor :=
  let written :=
    if f.isFormattable current typed (cursor == current.length) then f.formatText current else none
  match written with
  | none => ⟨current, cursor⟩
  | some text => ⟨text, ((text.length : Int) - current.length + cursor).toNat⟩

end DecimalFormat

end GridRules
