import GridRules.Decimal.Format
import GridRules.Value.Coercion

/-!
# The editor of a decimal cell

The editor holds the text that is being typed. It starts from the value of the cell, swallows keys
that cannot lead to a number, writes the text anew after an input, and gives the final numeral.
-/

namespace GridRules

/-- An editor at work. -/
structure DecimalEditor where
  /-- The format of the column. -/
  format : DecimalFormat
  /-- The text that is being typed. -/
  text : List Char
deriving DecidableEq

namespace DecimalEditor

/-- Whether the editor floats above the cell. -/
def isPopup : Bool := false

/-- The editor of a cell. A cell that is null or blank starts without text. -/
def start (settings : DecimalSettings) (v : Value) : DecimalEditor :=
  let format := DecimalFormat.ofSettings settings
  let blank := match v with
    | .null => true
    | .string s => Text.isBlank s.toList
    | _ => false
  ⟨format, if blank then [] else format.format v.toDouble⟩

/-- Whether a key that is pressed at the cursor may change the text. -/
def acceptsKey (e : DecimalEditor) (key : String) (cursor : Nat) : Bool :=
  e.format.isInputAllowed key e.text (cursor == e.text.length)

/-- The editor after an input, and the cursor. -/
def input (e : DecimalEditor) (text : List Char) (typed : Option String) (cursor : Nat) :
    DecimalEditor × Nat :=
  let update := e.format.onInput text typed cursor
  ({ e with text := update.text }, update.cursor)

/-- The value for the cell: the final numeral, or null without a number. -/
def value (e : DecimalEditor) : Value :=
  match e.format.value e.text with
  | some numeral => .string (String.ofList numeral)
  | none => .null

end DecimalEditor

end GridRules
