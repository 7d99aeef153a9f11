import GridRules.Expression.Evaluate
import GridRules.Grid.Load
import GridRules.Grid.Problem
import GridRules.Grid.Report
import GridRules.Grid.Sort

/-!
# The command line

Three commands: `eval` evaluates an expression on a row, `check` lists the problems of a grid, and
`apply` reports what a grid decides for rows. A command is first read from the arguments, then run
on the files that it names; both are functions, and reading files and printing are left to the
program.
-/

namespace GridRules

/-- A command with its options. -/
inductive Command where
  /-- Evaluates an expression on a row, both given as JSON. -/
  | eval (expr row : String)
  /-- Checks the grid of a file. -/
  | check (file : String)
  /-- Reports on the rows of a file by the grid of another. -/
  | apply (file rows : String) (filterDate sortBy : Option String) (descending : Bool)
  /-- Prints the version. -/
  | version
  /-- Prints a help text. -/
  | help
deriving DecidableEq

/-- What a run leaves behind: its exit status and its two outputs. -/
structure Outcome where
  /-- The exit status. -/
  status : Nat
  /-- What is printed. -/
  output : String
  /-- What is printed as an error. -/
  errors : String
deriving DecidableEq

namespace Outcome

/-- The outcome of a run that succeeds. -/
def success (output : String) : Outcome := ⟨0, output ++ "\n", ""⟩

/-- The outcome of a run that fails. -/
def failure (message : String) : Outcome := ⟨1, "", "Error: " ++ message ++ "\n"⟩

/-- The outcome of arguments that make no command. -/
def usage : Outcome := ⟨2, "", "error: invalid usage\n"⟩

end Outcome

/-- An option of a command. -/
structure OptionSpec where
  /-- The name after two hyphens. -/
  long : String
  /-- The letter after one hyphen. -/
  short : Option Char
  /-- Whether a value belongs to the option. -/
  takesValue : Bool
deriving DecidableEq

namespace OptionSpec

/-- The option that prints help; every command has it. -/
def help : OptionSpec := ⟨"help", some 'h', false⟩

/-- The options of the command that evaluates. -/
def forEval : List OptionSpec := [⟨"expr", some 'e', true⟩, ⟨"row", some 'r', true⟩, help]

/-- The options of the command that checks. -/
def forCheck : List OptionSpec := [⟨"file", some 'f', true⟩, help]

/-- The options of the command that reports. -/
def forApply : List OptionSpec :=
  [⟨"file", some 'f', true⟩, ⟨"rows", some 'r', true⟩, ⟨"filter-date", none, true⟩,
    ⟨"sort-by", none, true⟩, ⟨"descending", none, false⟩, help]

end OptionSpec

namespace Command

/-- The options that were given, by their long names, with their values. -/
abbrev Given := List (String × String)

/-- Whether an argument may be the value of an option: it does not start like an option. A hyphen
alone may. -/
def isValue (arg : String) : Bool :=
  match arg.toList with
  | '-' :: _ :: _ => false
  | _ => true

/-- A long option at the front of the arguments, the name being followed by `=` and a value
or not. -/
def readLong (specs : List OptionSpec) (name : List Char) (rest : List String) :
    Option ((String × String) × List String) :=
  let long := String.ofList (name.takeWhile (· ≠ '='))
  let attached := match name.dropWhile (· ≠ '=') with
    | [] => none
    | _ :: r => some (String.ofList r)
  match specs.find? (·.long == long) with
  | none => none
  | some spec =>
    match spec.takesValue, attached, rest with
    | true, some v, rest => some ((long, v), rest)
    | true, none, v :: rest => if isValue v then some ((long, v), rest) else none
    | true, none, [] => none
    | false, none, rest => some ((long, ""), rest)
    | false, some _, _ => none

/-- A short option at the front of the arguments, its value being attached to the letter or not. -/
def readShort (specs : List OptionSpec) (letter : Char) (attached : List Char)
    (rest : List String) : Option ((String × String) × List String) :=
  match specs.find? (·.short == some letter) with
  | none => none
  | some spec =>
    match spec.takesValue, attached, rest with
    | true, '=' :: v, rest => some ((spec.long, String.ofList v), rest)
    | true, c :: v, rest => some ((spec.long, String.ofList (c :: v)), rest)
    | true, [], v :: rest => if isValue v then some ((spec.long, v), rest) else none
    | true, [], [] => none
    | false, [], rest => some ((spec.long, ""), rest)
    | false, _, _ => none

/-- The option at the front of the arguments, and what follows it. -/
def readOption (specs : List OptionSpec) (arg : String) (rest : List String) :
    Option ((String × String) × List String) :=
  match arg.toList with
  | '-' :: '-' :: c :: name => readLong specs (c :: name) rest
  | '-' :: c :: attached => if c = '-' then none else readShort specs c attached rest
  | _ => none

/-- The options of a command. Each may be given once, and nothing else may stand between them; help
ends the reading. The fuel is at least the number of arguments. -/
def readOptions (specs : List OptionSpec) : Nat → List String → Option Given
  | _, [] => some []
  | 0, _ :: _ => none
  | fuel + 1, arg :: rest =>
    match readOption specs arg rest with
    | none => none
    | some ((name, v), rest) =>
      if name = "help" then some [(name, v)]
      else
        match readOptions specs fuel rest with
        | none => none
        | some given => if (given.lookup name).isSome then none else some ((name, v) :: given)

/-- The command of its name and options, where the needed options are there. -/
def ofGiven (name : String) (given : Given) : Option Command :=
  if (given.lookup "help").isSome then some .help
  else
    match name with
    | "eval" =>
      (given.lookup "expr").map fun expr => .eval expr ((given.lookup "row").getD "\x7b\x7d")
    | "check" => (given.lookup "file").map .check
    | _ =>
      match given.lookup "file", given.lookup "rows" with
      | some file, some rows =>
        let sortBy := given.lookup "sort-by"
        let descending := (given.lookup "descending").isSome
        if descending && sortBy.isNone then none
        else some (.apply file rows (given.lookup "filter-date") sortBy descending)
      | _, _ => none

/-- The command of a list of arguments; `none` when they make no command. -/
def ofArgs (args : List String) : Option Command :=
  let command (specs : List OptionSpec) (name : String) (rest : List String) :=
    (readOptions specs rest.length rest).bind (ofGiven name)
  match args with
  | "eval" :: rest => command OptionSpec.forEval "eval" rest
  | "check" :: rest => command OptionSpec.forCheck "check" rest
  | "apply" :: rest => command OptionSpec.forApply "apply" rest
  | "--version" :: _ => some .version
  | "-V" :: _ => some .version
  | "--help" :: _ => some .help
  | "-h" :: _ => some .help
  | ["help"] => some .help
  | ["help", name] => if name ∈ ["eval", "check", "apply", "help"] then some .help else none
  | _ => none

/-- The files that a command reads. -/
def files : Command → List String
  | .check file => [file]
  | .apply file rows _ _ _ => [file, rows]
  | _ => []

/-- The version line. -/
def versionText : String := "cellrule-rs 0.1.0"

/-- The help text. -/
def helpText : String := "Usage: cellrule <eval|check|apply> [OPTIONS]"

/-- The outcome of a run that may fail. -/
def outcome : Except String String → Outcome
  | .ok output => .success output
  | .error message => .failure message

/-- A result whose error is told under a heading. -/
def withContext {ε α : Type} (heading : String) : Except ε α → Except String α :=
  Except.mapError fun _ => heading

/-- Evaluates an expression on a row, both given as JSON. -/
def runEval (expr row : String) : Except String String := do
  let expr ← withContext "--expr is not valid JSON" (Json.parse expr)
  let row ← withContext "--row is not valid JSON" (Json.parse row)
  let v ← (Expression.evaluateWire (.ofValue row) expr).mapError fun fault => fault.report.message
  return v.render

/-- The grid of a file. -/
def loadGrid (content : String → Option String) (file : String) : Except String Grid :=
  withContext ("Failed to load grid " ++ file) (Grid.load file (content file))

/-- The number of something as text. -/
def countText (n : Nat) : String := String.ofList (Text.digits n)

/-- Checks the grid of a file. Its problems are told one to a line. -/
def runCheck (content : String → Option String) (file : String) : Outcome :=
  match loadGrid content file with
  | .error message => .failure message
  | .ok g =>
    match g.problems with
    | [] => .success (g.name ++ ": " ++ countText g.columns.length ++ " columns, ok")
    | problems =>
      let lines := problems.map fun p => p.message ++ "\n"
      ⟨1, "", String.join lines ++ "Error: " ++ countText problems.length
        ++ " problem(s) in grid '" ++ g.name ++ "'\n"⟩

/-- The rows of a file. -/
def loadRows (content : String → Option String) (file : String) : Except String (List Row) :=
  match content file with
  | none => .error ("Failed to read " ++ file)
  | some text =>
    withContext "Rows must be a JSON array of objects"
      (Json.decode (Document.listOf Row.decode) text)

/-- Reports on the rows of a file by the grid of another. -/
def runApply (content : String → Option String) (file rows : String)
    (filterDate sortBy : Option String) (descending : Bool) : Except String String := do
  let g ← loadGrid content file
  let rows ← loadRows content rows
  let rows ← match sortBy with
    | none => pure rows
    | some field =>
      (g.sortRows rows field descending).mapError fun e => (Error.configuration e).message
  let filter ← match g.dateFilter?, filterDate with
    | some f, some date => ((f.setDate (some date)).map some).mapError DateError.message
    | none, some _ => pure none
    | f, none => pure f
  return (Value.array (rows.map fun row => (g.report row filter).toValue)).renderIndented

/-- Runs a command on the contents of files; a file without content cannot be read. -/
def run (content : String → Option String) : Command → Outcome
  | .eval expr row => outcome (runEval expr row)
  | .check file => runCheck content file
  | .apply file rows filterDate sortBy descending =>
    outcome (runApply content file rows filterDate sortBy descending)
  | .version => .success versionText
  | .help => .success helpText

end Command

/-- Runs the program on its arguments and the contents of files. -/
def runArgs (args : List String) (content : String → Option String) : Outcome :=
  match Command.ofArgs args with
  | none => .usage
  | some command => command.run content

end GridRules
