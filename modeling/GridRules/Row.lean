import GridRules.Document.Structure

/-!
# Rows

One row of a grid: field names with their values. A name is looked up as it stands, so a point in it
has no meaning; a field that is missing is kept apart from one that is null.
-/

namespace GridRules

/-- A row of a grid. -/
structure Row where
  /-- The fields in ascending order of their names. -/
  fields : Dictionary Value
deriving DecidableEq, Inhabited

namespace Row

/-- The row without fields. -/
def empty : Row := ⟨.empty⟩

/-- The row of a list of pairs; of two pairs with one name the later counts. -/
def ofList (pairs : List (String × Value)) : Row := ⟨.ofList pairs⟩

/-- The row of an object; any other value gives the empty row. -/
def ofValue : Value → Row
  | .object fields => ofList fields
  | _ => empty

/-- The value of a field; `none` when the row lacks it. -/
def get? (row : Row) (name : String) : Option Value := row.fields.get? name

/-- Whether the row has a field. -/
def contains (row : Row) (name : String) : Bool := row.fields.contains name

/-- The row with a field set. -/
def insert (row : Row) (name : String) (value : Value) : Row := ⟨row.fields.insert name value⟩

/-- The field names in ascending order. -/
def keys (row : Row) : List String := row.fields.keys

/-- The number of fields. -/
def size (row : Row) : Nat := row.fields.size

/-- Whether the row has no fields. -/
def isEmpty (row : Row) : Bool := row.fields.isEmpty

/-- The row that a document writes as a mapping of names. -/
def decode (d : Document) : Except ReadError Row :=
  (Document.dictionaryOf Document.toValue d).map Row.mk

/-- The row as an object. -/
def toValue (row : Row) : Value := .object row.fields.entries

@[simp] theorem get?_empty (name : String) : empty.get? name = none := rfl

@[simp] theorem get?_insert (row : Row) (name other : String) (value : Value) :
    (row.insert name value).get? other = if other = name then some value else row.get? other :=
  Dictionary.get?_insert row.fields name other value

end Row

end GridRules
