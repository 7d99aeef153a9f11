import GridRules.Document.Structure
import GridRules.Slot

/-!
# Class rules

Rules that give a cell or a row its classes. Every rule is checked on its own, and all whose value
is true apply.
-/

namespace GridRules

/-- A rule for each class name. -/
abbrev ClassRules := Dictionary (Slot Bool)

namespace ClassRules

/-- The class rules that a document writes. -/
def decode (d : Document) : Except ReadError ClassRules := Document.dictionaryOf Slot.decode d

/-- The classes whose rules hold on a row, in ascending order. A faulty rule does not hold. -/
def applied (rules : ClassRules) (row : Row) : List String :=
  (rules.entries.filter fun rule => rule.2.resolveOr row false).map (·.1)

/-- The rules as an object. -/
def toValue (rules : ClassRules) : Value :=
  .object (rules.entries.map fun rule => (rule.1, rule.2.toValue))

end ClassRules

end GridRules
