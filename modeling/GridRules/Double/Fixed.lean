import GridRules.Double.Basic
import GridRules.Text.Digits

/-!
# Doubles with a fixed number of decimal places

The exact value of a double rounded to a number of decimal places, a half going to the even
neighbour.
-/

namespace GridRules

/-- The whole number nearest to a quotient; a half goes to the even neighbour. -/
def roundHalfEven (num den : Nat) : Nat :=
  let q := num / den
  match compare (2 * (num % den)) den with
  | .lt => q
  | .gt => q + 1
  | .eq => q + q % 2

namespace Magnitude

/-- The magnitude in steps of the last decimal place, rounded to a whole number of them. -/
def scaled (m : Magnitude) (places : Nat) : Nat :=
  roundHalfEven (m.units * Nat.pow 10 places) unitsPerOne

/-- The digits before the point, without leading zeros. -/
def wholeDigits (m : Magnitude) (places : Nat) : List Char :=
  Text.digits (m.scaled places / Nat.pow 10 places)

/-- Exactly `places` digits after the point. -/
def fractionDigits (m : Magnitude) (places : Nat) : List Char :=
  if places = 0 then [] else Text.padded places (m.scaled places % Nat.pow 10 places)

end Magnitude

namespace Double

/-- The text of a double with exactly `places` digits after the point, and no point without them. A
negative zero result keeps its sign. -/
def fixedText (x : Double) (places : Nat) : List Char :=
  match x with
  | .nan => "NaN".toList
  | .signed negative m =>
    let text :=
      if !m.isFinite then "inf".toList
      else if places = 0 then m.wholeDigits places
      else m.wholeDigits places ++ '.' :: m.fractionDigits places
    if negative then '-' :: text else text

end Double

end GridRules
