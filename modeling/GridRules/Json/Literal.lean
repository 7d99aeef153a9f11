import GridRules.Json.Value
import GridRules.Text.Digits

/-!
# Number literals

The number of a JSON literal. A literal with a fraction or an exponent is read in two roundings: as
many leading digits as fit 64 bits are rounded to a double, and that is multiplied or divided by the
double nearest to a power of ten. A result beyond the doubles is refused.
-/

namespace GridRules.Literal

/-- Takes digits onto a number as long as the result fits 64 bits: the result, how many digits were
taken and how many were left. -/
def absorb (acc : Nat) : List Char → Nat × Nat × Nat
  | [] => (acc, 0, 0)
  | c :: r =>
    let next := acc * 10 + (c.toNat - '0'.toNat)
    if next < 0x10000000000000000 then
      let (result, taken, left) := absorb next r
      (result, taken + 1, left)
    else (acc, 0, r.length + 1)

/-- The magnitude nearest to a quotient of units. -/
def nearest (num den : Nat) : Magnitude := .ofRank (nearestRank num den)

/-- The magnitude nearest to ten to a power. -/
def tenTo (power : Nat) : Magnitude := nearest (Nat.pow 10 power * unitsPerOne) 1

/-- The product of a magnitude with ten to a power, rounded once after rounding the power. -/
def scaleUp (m : Magnitude) (power : Nat) : Magnitude :=
  nearest (m.units * (tenTo power).units) unitsPerOne

/-- The quotient of a magnitude by ten to a power, rounded once after rounding the power. -/
def scaleDown (m : Magnitude) (power : Nat) : Magnitude :=
  nearest (m.units * unitsPerOne) (tenTo power).units

/-- A magnitude times ten to a power; `none` when the result is not finite. The greatest power that
is a double is 308, so smaller numbers are divided twice, and after that nothing is left. -/
def scale? (m : Magnitude) (power : Int) : Option Magnitude :=
  if m.rank = 0 then some m
  else if 308 < power then none
  else if 0 ≤ power then
    let result := scaleUp m power.toNat
    if result.isFinite then some result else none
  else if -308 ≤ power then some (scaleDown m (-power).toNat)
  else if -616 ≤ power then some (scaleDown (scaleDown m 308) (-power - 308).toNat)
  else some .zero

/-- The double of a literal with the given digits before and after the point, times ten to
a power. -/
def double? (negative : Bool) (whole fraction : List Char) (power : Int) : Option Number :=
  let (acc, _, left) := absorb 0 whole
  let (acc, taken, _) := absorb acc fraction
  match scale? (nearest (acc * unitsPerOne) 1) (power + left - taken) with
  | some m => Number.ofDouble? (.signed negative m)
  | none => none

/-- The number of a literal without fraction and exponent: a whole number if it fits 64 bits,
otherwise a double. Zero with a minus sign is a double. -/
def integer? (negative : Bool) (whole : List Char) : Option Number :=
  let n := Text.ofDigits whole
  if negative && n == 0 then double? negative whole [] 0
  else
    match Number.ofInt? (if negative then -(n : Int) else n) with
    | some number => some number
    | none => double? negative whole [] 0

end GridRules.Literal
