import GridRules.Yaml.Token

/-!
# Events

The nodes of a document in the order of the text. A collection is an event where it starts and one
where it ends, so that a text that goes wrong halfway still has events up to there.
-/

namespace GridRules.Yaml

/-- An event of a document. Tags are given in full. -/
inductive Event where
  /-- A reference to a named node. -/
  | alias (name : List Char)
  /-- A scalar. -/
  | scalar (anchor : Option (List Char)) (tag : Option (List Char)) (style : ScalarStyle)
      (text : List Char)
  /-- The start of a list. -/
  | listStart (anchor : Option (List Char)) (tag : Option (List Char))
  /-- The end of a list. -/
  | listEnd
  /-- The start of a mapping, whose keys and values follow in turn. -/
  | tableStart (anchor : Option (List Char)) (tag : Option (List Char))
  /-- The end of a mapping. -/
  | tableEnd
deriving DecidableEq

namespace Event

/-- The scalar of a node that is not there. -/
def empty : Event := .scalar none none .plain []

/-- The name that an event gives to its node. -/
def anchor? : Event → Option (List Char)
  | scalar anchor _ _ _ => anchor
  | listStart anchor _ => anchor
  | tableStart anchor _ => anchor
  | _ => none

end Event

end GridRules.Yaml
