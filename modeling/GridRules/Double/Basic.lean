/-!
# Doubles

IEEE 754 binary64 numbers, without their arithmetic: the program reads them, orders them and writes
them. A nonnegative double is given by its rank, the number of doubles between zero and it, so that
the order of the numbers is the order of the ranks and the next double has the next rank. The value
behind a rank is an exact multiple of the least positive double, two to the power of minus 1074;
that multiple is `unitsOfRank`.
-/

namespace GridRules

/-- The number of doubles in a block, in which neighbours have the same distance: two to the power
of 52. -/
abbrev blockLength : Nat := 0x10000000000000

/-- The rank of infinity: there are 2047 blocks below it. -/
abbrev infinityRank : Nat := 0x7FF0000000000000

/-- The value one as a multiple of the least positive double. -/
def unitsPerOne : Nat := Nat.pow 2 1074

/-- A nonnegative double, infinity included. -/
structure Magnitude where
  /-- The number of nonnegative doubles below this one. -/
  rank : Nat
  /-- No double lies above infinity. -/
  rank_le : rank ≤ infinityRank
deriving DecidableEq

/-- A double: not a number, or a magnitude with a sign. Zero has both signs. -/
inductive Double where
  /-- The value that is not a number; its payload is never observed. -/
  | nan
  /-- A signed zero, finite number or infinity. -/
  | signed (negative : Bool) (magnitude : Magnitude)
deriving DecidableEq

/-- The value of the double of a rank as a multiple of the least positive double. The ranks of the
first block are the subnormal numbers and are their own values; from the third block on each doubles
the distance between neighbours. -/
def unitsOfRank (rank : Nat) : Nat :=
  if rank < blockLength then rank
  else (blockLength + rank % blockLength) * Nat.pow 2 (rank / blockLength - 1)

namespace Magnitude

/-- The magnitude zero. -/
def zero : Magnitude := ⟨0, Nat.zero_le _⟩

/-- The magnitude beyond all finite ones. -/
def infinity : Magnitude := ⟨infinityRank, Nat.le_refl _⟩

/-- The magnitude of a rank, infinity for every rank above its own. -/
def ofRank (rank : Nat) : Magnitude := ⟨min rank infinityRank, Nat.min_le_right _ _⟩

/-- The value as a multiple of the least positive double. -/
def units (m : Magnitude) : Nat := unitsOfRank m.rank

/-- Whether the magnitude is below infinity. -/
def isFinite (m : Magnitude) : Bool := m.rank < infinityRank

end Magnitude

namespace Double

/-- Positive zero. -/
def zero : Double := .signed false .zero

/-- Positive or negative infinity. -/
def infinity (negative : Bool) : Double := .signed negative .infinity

/-- Whether the double is not a number. -/
def isNaN : Double → Bool
  | .nan => true
  | .signed _ _ => false

/-- Whether the double is a number below infinity. -/
def isFinite : Double → Bool
  | .nan => false
  | .signed _ m => m.isFinite

/-- Whether the double is one of the two zeros. -/
def isZero : Double → Bool
  | .nan => false
  | .signed _ m => m.rank == 0

/-- The place of a double on the number line, where both zeros share one place; a double that is not
a number has none. -/
def place : Double → Option Int
  | .nan => none
  | .signed false m => some m.rank
  | .signed true m => some (-m.rank)

/-- The numeric order; no answer when a side is not a number. -/
def compare? (a b : Double) : Option Ordering :=
  match a.place, b.place with
  | some x, some y => some (compare x y)
  | _, _ => none

/-- Numeric equality: the zeros are equal and what is not a number equals nothing. -/
def sameNumber (a b : Double) : Bool := a.compare? b == some .eq

theorem isNaN_eq_false_iff {x : Double} : x.isNaN = false ↔ ∃ p, x.place = some p := by
  cases x with
  | nan => simp [isNaN, place]
  | signed negative m => cases negative <;> simp [isNaN, place]

/-- Doubles are numerically equal when they have one place on the number line. -/
theorem sameNumber_iff {a b : Double} :
    a.sameNumber b = true ↔ ∃ p, a.place = some p ∧ b.place = some p := by
  unfold sameNumber compare?
  cases ha : a.place with
  | none => simp
  | some x =>
    cases hb : b.place with
    | none => simp
    | some y =>
      have h : x = y ↔ y = x := eq_comm
      simpa using h

/-- The place of a double in the total order, which puts negative zero below positive zero and what
is not a number above infinity. -/
def totalPlace : Double → Int
  | .nan => infinityRank + 1
  | .signed false m => m.rank
  | .signed true m => -m.rank - 1

/-- The total order of all doubles. -/
def totalOrder (a b : Double) : Ordering := compare a.totalPlace b.totalPlace

/-- The IEEE 754 bit pattern: the sign above the rank. -/
def toBits : Double → Nat
  | .nan => 0x7FF8000000000000
  | .signed negative m => if negative then 0x8000000000000000 + m.rank else m.rank

end Double

end GridRules
