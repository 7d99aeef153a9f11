import GridRules.Double.Basic

/-!
# The nearest double

The double nearest to a rational number, with ties to the one of even rank. The rank of the greatest
double that does not exceed the number is read off its binary logarithm; which of it and its
successor is nearer is decided in whole numbers.
-/

namespace GridRules

/-- The greatest rank whose value does not exceed `units` units. -/
def floorRank (units : Nat) : Nat :=
  let shift := units.log2 - 52
  shift * blockLength + units / Nat.pow 2 shift

/-- The nearer one of a rank and its successor to the quotient of `num` and `den` units; a tie goes
to the even rank. -/
def nearerRank (low num den : Nat) : Nat :=
  match compare (2 * num) ((unitsOfRank low + unitsOfRank (low + 1)) * den) with
  | .lt => low
  | .gt => low + 1
  | .eq => low + low % 2

/-- The rank whose value is nearest to the quotient of `num` and `den` units; a tie goes to the even
rank. Ranks above infinity stand for the values that a wider exponent would give. -/
def nearestRank (num den : Nat) : Nat := nearerRank (floorRank (num / den)) num den

namespace Double

/-- The double nearest to the quotient of `num` and `den`, with a given sign; infinity from half a
step above the greatest finite double. -/
def ofRatio (negative : Bool) (num den : Nat) : Double :=
  .signed negative (.ofRank (nearestRank (num * unitsPerOne) den))

/-- The double nearest to a whole number. -/
def ofInt (n : Int) : Double := ofRatio (n < 0) n.natAbs 1

/-- The double nearest to `digits` times ten to the power of `exponent`. Where the power alone
decides, it is not computed: above ten to the power of 310 everything but zero is infinite, and
below ten to the power of minus 330 everything is zero. -/
def ofDecimal (negative : Bool) (digits : Nat) (exponent : Int) : Double :=
  if digits = 0 then .signed negative .zero
  else if 310 < exponent then infinity negative
  else if exponent + digits.log2 < -330 then .signed negative .zero
  else if 0 ≤ exponent then ofRatio negative (digits * Nat.pow 10 exponent.toNat) 1
  else ofRatio negative digits (Nat.pow 10 (-exponent).toNat)

@[simp] theorem isNaN_ofRatio (negative : Bool) (num den : Nat) :
    (ofRatio negative num den).isNaN = false := rfl

@[simp] theorem isNaN_ofInt (n : Int) : (ofInt n).isNaN = false := rfl

/-- A decimal denotes a number, however far its power of ten goes. -/
@[simp] theorem isNaN_ofDecimal (negative : Bool) (digits : Nat) (exponent : Int) :
    (ofDecimal negative digits exponent).isNaN = false := by
  unfold ofDecimal
  repeat' split
  all_goals rfl

example : ofInt 9007199254740993 = ofInt 9007199254740992 := by decide +kernel

example : (ofDecimal false 1 (-1)).toBits = 0x3FB999999999999A := by decide +kernel

end Double

end GridRules
