import GridRules.Value.Coercion

/-!
# Loose comparison

Equality, order and membership of mixed values, and the total order that sorts them.

Two lists, or two objects, are compared by structure; everything else by its primitive. Primitives
that are both texts are compared as texts, all others as numbers, and null equals nothing but null.
-/

namespace GridRules

namespace Value

mutual

/-- Structural equality with numbers compared by their doubles. -/
def sameStructure : Value → Value → Bool
  | .null, .null => true
  | .bool a, .bool b => a == b
  | .number a, .number b => a.toDouble.sameNumber b.toDouble
  | .string a, .string b => a == b
  | .array a, .array b => sameStructureItems a b
  | .object a, .object b => sameStructureFields a b
  | _, _ => false

/-- Structural equality of the items of two lists, place by place. -/
def sameStructureItems : List Value → List Value → Bool
  | [], [] => true
  | a :: r, b :: t => sameStructure a b && sameStructureItems r t
  | _, _ => false

/-- Structural equality of the fields of two objects; both ascend, so fields of one name meet. -/
def sameStructureFields : List (String × Value) → List (String × Value) → Bool
  | [], [] => true
  | (n, a) :: r, (m, b) :: t => n == m && sameStructure a b && sameStructureFields r t
  | _, _ => false

end

end Value

namespace Primitive

/-- Loose equality of primitives. -/
def looseEquals : Primitive → Primitive → Bool
  | null, null => true
  | null, _ => false
  | _, null => false
  | text a, text b => a == b
  | a, b => a.toDouble.sameNumber b.toDouble

/-- The order of primitives: texts by code points, anything else by number; no answer when a side is
not a number. -/
def compare? : Primitive → Primitive → Option Ordering
  | text a, text b => some (compare a b)
  | a, b => a.toDouble.compare? b.toDouble

end Primitive

namespace Value

/-- Loose equality. -/
def looseEquals (a b : Value) : Bool :=
  if a.isContainer && b.isContainer then sameStructure a b
  else a.primitive.looseEquals b.primitive

/-- The order behind "at most" and "at least"; no answer when the two cannot be compared. -/
def compare? (a b : Value) : Option Ordering := a.primitive.compare? b.primitive

/-- Whether a value is at most another; false when they cannot be compared. -/
def atMost (a b : Value) : Bool :=
  match a.compare? b with
  | some .lt | some .eq => true
  | _ => false

/-- Whether a value is at least another; false when they cannot be compared. -/
def atLeast (a b : Value) : Bool :=
  match a.compare? b with
  | some .gt | some .eq => true
  | _ => false

/-- Whether an element of the haystack loosely equals the needle. -/
def includes (haystack needle : Value) : Bool := haystack.sequence.any (·.looseEquals needle)

end Value

/-- The place of a value among mixed values. The groups follow each other in the order
given here. -/
inductive SortKey where
  /-- Null. -/
  | null
  /-- A truth value. -/
  | bool (b : Bool)
  /-- A number or a text that denotes one. -/
  | number (x : Double)
  /-- Any other text. -/
  | text (s : String)
  /-- A list or an object, by its display text. -/
  | composite (s : String)
deriving DecidableEq

namespace SortKey

/-- The position of the group of a key. -/
def group : SortKey → Nat
  | null => 0
  | bool _ => 1
  | number _ => 2
  | text _ => 3
  | composite _ => 4

/-- The order inside a group: false before true, numbers by the total order, texts by
code points. -/
def orderInGroup : SortKey → SortKey → Ordering
  | bool a, bool b => compare a.toNat b.toNat
  | number a, number b => a.totalOrder b
  | text a, text b => compare a b
  | composite a, composite b => compare a b
  | _, _ => .eq

/-- The order of keys: by group, then inside the group. -/
def order (a b : SortKey) : Ordering := (compare a.group b.group).then (orderInGroup a b)

end SortKey

namespace Value

/-- The sort key of a value. A text is a number when it denotes one and is not blank. -/
def sortKey : Value → SortKey
  | .null => .null
  | .bool b => .bool b
  | .number n => .number n.toDouble
  | .string s =>
    let x := numberOfText s.toList
    if Text.isBlank s.toList || x.isNaN then .text s else .number x
  | v => .composite v.displayText

/-- The order that sorts mixed values. -/
def sortOrder (a b : Value) : Ordering := a.sortKey.order b.sortKey

end Value

end GridRules
