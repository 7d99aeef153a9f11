import GridRules.Document.Basic

/-!
# Tokens

What the scanner makes of a text. Indentation has become explicit: the start of a block collection
and its end are tokens of their own, and so is the start of a key, which is only known once its
colon is found.
-/

namespace GridRules.Yaml

/-- A token of a text. -/
inductive Token where
  /-- The end of the text. -/
  | textEnd
  /-- A directive that names the version of YAML. -/
  | version (major minor : Nat)
  /-- A directive that gives a meaning to the handle of tags. -/
  | handle (name meaning : List Char)
  /-- The start of a document. -/
  | documentStart
  /-- The end of a document. -/
  | documentEnd
  /-- The start of a list by indentation. -/
  | blockList
  /-- The start of a mapping by indentation. -/
  | blockTable
  /-- The end of a list or mapping by indentation. -/
  | blockEnd
  /-- The start of a list in brackets. -/
  | flowList
  /-- The end of a list in brackets. -/
  | flowListEnd
  /-- The start of a mapping in braces. -/
  | flowTable
  /-- The end of a mapping in braces. -/
  | flowTableEnd
  /-- The hyphen before an item. -/
  | item
  /-- The comma after an item or entry in brackets or braces. -/
  | comma
  /-- The start of a key. -/
  | key
  /-- The start of the value of a key. -/
  | value
  /-- A reference to a named node. -/
  | alias (name : List Char)
  /-- The name of the node that follows. -/
  | anchor (name : List Char)
  /-- The tag of the node that follows: a handle and what is appended to its meaning. -/
  | tag (handle suffix : List Char)
  /-- A scalar. -/
  | scalar (style : ScalarStyle) (text : List Char)
deriving DecidableEq

end GridRules.Yaml
