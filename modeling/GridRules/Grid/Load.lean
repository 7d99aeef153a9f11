import GridRules.Error
import GridRules.Grid.Wire
import GridRules.Json.Reader
import GridRules.Yaml.Reader

/-!
# Loading grids

A grid is defined in a text in YAML or JSON. Which of the two a file holds follows from its name.
-/

namespace GridRules.Grid

/-- The grid of a JSON text. -/
def ofJson (text : String) : Except Error Grid := (Json.decode decode text).mapError .json

/-- The grid of a YAML text. -/
def ofYaml (text : String) : Except Error Grid := (Yaml.decode decode text).mapError .yaml

/-- The part of a file name after its last point, if the point is not its first character. -/
def extension? (path : String) : Option (List Char) :=
  let name := (path.toList.reverse.takeWhile (· ≠ '/')).reverse
  if name = "..".toList then none
  else
    match name with
    | [] => none
    | _ :: r => if '.' ∈ r then some (r.reverse.takeWhile (· ≠ '.')).reverse else none

/-- Whether a file is read as YAML. -/
def isYamlPath (path : String) : Bool :=
  match extension? path with
  | some ext =>
    let ext := ext.map Char.toLower
    ext == "yaml".toList || ext == "yml".toList
  | none => false

/-- The grid of a file of the given name and content; a file without content cannot be read. -/
def load (path : String) (content : Option String) : Except Error Grid :=
  match content with
  | none => .error .file
  | some text => if isYamlPath path then ofYaml text else ofJson text

end GridRules.Grid
