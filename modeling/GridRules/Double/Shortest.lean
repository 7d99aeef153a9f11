import GridRules.Double.Rounding
import GridRules.Text.Digits

/-!
# The shortest decimal of a double

Of all decimals that read back to a double, one with the fewest digits, and of those the nearest. A
decimal reads back exactly when it lies between the midpoints to the two neighbouring doubles, the
midpoints included when the rank is even. Powers of ten are tried from the coarsest down; on each
grid only the two neighbours of the double can be nearest. The finest grid holds the double itself,
so the search always ends with an answer.

A double can lie halfway between two nearest decimals. Plain text takes the greater one then, and
JSON text the one whose last digit is even.
-/

namespace GridRules

/-- A positive decimal number, `coefficient` times ten to the power of `exponent`. -/
structure Decimal where
  /-- The digits as a whole number. -/
  coefficient : Nat
  /-- The power of ten. -/
  exponent : Int
deriving DecidableEq

namespace Decimal

/-- The digits of the coefficient. -/
def digits (d : Decimal) : List Char := Text.digits d.coefficient

/-- The decimal written without an exponent, with a point only before a digit. -/
def positional (d : Decimal) : List Char :=
  if 0 ≤ d.exponent then d.digits ++ List.replicate d.exponent.toNat '0'
  else
    let places := (-d.exponent).toNat
    let ds := Text.padded (places + 1) d.coefficient
    ds.take (ds.length - places) ++ '.' :: ds.drop (ds.length - places)

end Decimal

/-- Which of two decimals is taken when a double lies halfway between them. -/
inductive Halfway where
  /-- The greater one. -/
  | up
  /-- The one whose last digit is even. -/
  | even
deriving DecidableEq

/-- Whether the smaller one is taken, by its coefficient. -/
def Halfway.keepsLow (h : Halfway) (low : Nat) : Bool :=
  match h with
  | up => false
  | even => low % 2 == 0

namespace Magnitude

/-- Whether a number reads back to the double of a rank, `twice` being twice the number in units and
everything multiplied by `scale`: it lies between the midpoints to the neighbours of the double, and
on a midpoint only when the rank is even. -/
def readsBack (rank scale twice : Nat) : Bool :=
  let low := (unitsOfRank (rank - 1) + unitsOfRank rank) * scale
  let high := (unitsOfRank rank + unitsOfRank (rank + 1)) * scale
  if rank % 2 = 0 then low ≤ twice && twice ≤ high else low < twice && twice < high

/-- Whether the point below a value is taken where the next one reads back too: it is nearer, or
the value lies halfway and the smaller decimal is kept. -/
def takesLow (halfway : Halfway) (value low step : Nat) : Bool :=
  let middle := (2 * low + 1) * step
  2 * value < middle || (2 * value == middle && halfway.keepsLow low)

/-- The point of the grid of a power of ten that reads back to the double of a rank, the nearer one
if there are two. -/
def gridPoint? (halfway : Halfway) (rank : Nat) (power : Int) : Option Nat :=
  let scale := Nat.pow 10 (-power).toNat
  let step := unitsPerOne * Nat.pow 10 power.toNat
  let value := unitsOfRank rank * scale
  let low := value / step
  let lowReads := readsBack rank scale (2 * (low * step))
  let highReads := readsBack rank scale (2 * ((low + 1) * step))
  if lowReads && (!highReads || takesLow halfway value low step) then some low
  else if highReads then some (low + 1)
  else none

/-- The search over the powers of ten from `fuel - 1074` down to the one that holds every double. -/
def shortestFrom (halfway : Halfway) (rank : Nat) : Nat → Decimal
  | 0 => ⟨unitsOfRank rank * Nat.pow 5 1074, -1074⟩
  | fuel + 1 =>
    let power : Int := (fuel + 1 : Nat) - 1074
    match gridPoint? halfway rank power with
    | some c => ⟨c, power⟩
    | none => shortestFrom halfway rank fuel

/-- The shortest decimal of a positive finite magnitude. The search starts at a power of ten
above the double: thirty thousand one hundred and three hundred-thousandths of a bit make a
decimal digit. -/
def shortest (halfway : Halfway) (m : Magnitude) : Decimal :=
  let bits : Int := (m.units.log2 : Int) - 1073
  shortestFrom halfway m.rank (bits * 30103 / 100000 + 2 + 1074).toNat

end Magnitude

namespace Double

/-- The text of a double with the shortest digits and never an exponent: `0.000001`, `1000`, `-0`.
Halfway between two texts it is the greater number. -/
def plainText : Double → List Char
  | .nan => "NaN".toList
  | .signed negative m =>
    let text :=
      if !m.isFinite then "Infinity".toList
      else if m.rank = 0 then ['0']
      else (m.shortest .up).positional
    if negative then '-' :: text else text

example : plainText (ofDecimal false 1 (-1)) = "0.1".toList := by decide +kernel

example : plainText (ofDecimal true 1 21) = "-1000000000000000000000".toList := by decide +kernel

example : plainText (ofDecimal false 112589990684262425 (-2)) = "1125899906842624.3".toList := by
  decide +kernel

example : plainText (.signed false (.ofRank 1)) =
    '0' :: '.' :: List.replicate 323 '0' ++ ['5'] := by decide +kernel

end Double

end GridRules
