import GridRules.Dictionary
import GridRules.Double.Rounding

/-!
# JSON values

The values of cells, literals and configuration. A number is a whole number in the range of the
64-bit integers, signed or unsigned, or a finite double; the two stay apart, `1` is not `1.0`. The
fields of an object are a list of entries; those that are read from a text ascend by name.
-/

namespace GridRules

/-- A JSON number. -/
inductive Number where
  /-- A whole number that fits a signed or an unsigned 64-bit integer. -/
  | integer (n : Int) (fits : -0x8000000000000000 ≤ n ∧ n < 0x10000000000000000)
  /-- A finite double. -/
  | real (negative : Bool) (magnitude : Magnitude) (finite : magnitude.rank < infinityRank)
deriving DecidableEq

/-- A JSON value. -/
inductive Value where
  /-- The null value. -/
  | null
  /-- A truth value. -/
  | bool (b : Bool)
  /-- A number. -/
  | number (n : Number)
  /-- A text. -/
  | string (s : String)
  /-- A list of values. -/
  | array (items : List Value)
  /-- Named values. -/
  | object (fields : List (String × Value))
deriving Inhabited

namespace Number

/-- The double nearest to the number. -/
def toDouble : Number → Double
  | integer n _ => .ofInt n
  | real negative m _ => .signed negative m

@[simp] theorem isNaN_toDouble (n : Number) : n.toDouble.isNaN = false := by cases n <;> rfl

/-- The number of a whole number that fits 64 bits. -/
def ofInt? (n : Int) : Option Number :=
  if fits : -0x8000000000000000 ≤ n ∧ n < 0x10000000000000000 then some (integer n fits) else none

/-- The number of a finite double. -/
def ofDouble? : Double → Option Number
  | .nan => none
  | .signed negative m =>
    if finite : m.rank < infinityRank then some (real negative m finite) else none

end Number

namespace Value

mutual

/-- Equality of values: numbers are equal only when they are of one kind. -/
def same : Value → Value → Bool
  | .null, .null => true
  | .bool a, .bool b => a == b
  | .number a, .number b => a == b
  | .string a, .string b => a == b
  | .array a, .array b => sameItems a b
  | .object a, .object b => sameFields a b
  | _, _ => false

/-- Equality of lists of values. -/
def sameItems : List Value → List Value → Bool
  | [], [] => true
  | a :: r, b :: t => same a b && sameItems r t
  | _, _ => false

/-- Equality of lists of entries. -/
def sameFields : List (String × Value) → List (String × Value) → Bool
  | [], [] => true
  | (n, a) :: r, (m, b) :: t => n == m && same a b && sameFields r t
  | _, _ => false

end

mutual

theorem same_iff : ∀ a b : Value, same a b = true ↔ a = b
  | .null, b | .bool _, b | .number _, b | .string _, b => by cases b <;> simp [same]
  | .array a, b => by cases b <;> simp [same, sameItems_iff]
  | .object a, b => by cases b <;> simp [same, sameFields_iff]

theorem sameItems_iff : ∀ a b : List Value, sameItems a b = true ↔ a = b
  | [], b => by cases b <;> simp [sameItems]
  | a :: r, b => by cases b <;> simp [sameItems, same_iff a, sameItems_iff r]

theorem sameFields_iff : ∀ a b : List (String × Value), sameFields a b = true ↔ a = b
  | [], b => by cases b <;> simp [sameFields]
  | (n, a) :: r, b => by
    rcases b with _ | ⟨⟨m, b⟩, t⟩
    · simp [sameFields]
    · simp [sameFields, same_iff a, sameFields_iff r, and_assoc]

end

instance : DecidableEq Value := fun a b => decidable_of_iff _ (same_iff a b)

/-- The value of a whole number that fits 64 bits. -/
def ofNat (n : Nat) (fits : n < 0x10000000000000000) : Value := .number (.integer n (by omega))

/-- The object of a list of pairs, in ascending order; of two pairs with one name the
later counts. -/
def ofPairs (pairs : List (String × Value)) : Value := .object (sortEntries pairs)

/-- The list of a list of texts. -/
def ofStrings (texts : List String) : Value := .array (texts.map .string)

/-- An optional value as a value, null when it is absent. -/
def ofOption {α : Type} (toValue : α → Value) : Option α → Value
  | some a => toValue a
  | none => .null

/-- A field of an object; other values have none. -/
def field? : Value → String → Option Value
  | .object fields, name => fields.lookup name
  | _, _ => none

end Value

end GridRules
