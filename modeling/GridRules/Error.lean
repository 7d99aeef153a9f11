import GridRules.Document.Basic

/-!
# Errors

The errors of the library as they are reported, with their wording.
-/

namespace GridRules

/-- An error of an expression as it is reported: texts for the offending tag, the message and the
path. -/
inductive ExpressionError where
  /-- The kind of a node is unknown. -/
  | unknownKind (kind path : String)
  /-- An operator is unknown. -/
  | unknownOperator (operator path : String)
  /-- A node of a known kind has the wrong form. -/
  | malformed (detail path : String)
deriving DecidableEq

/-- An error of a date or of a list of date ranges. -/
inductive DateError where
  /-- A bound is no date. -/
  | invalidDate (text : String)
  /-- An entry is no range. -/
  | invalidRange (text : String)
deriving DecidableEq

/-- An error of a component. -/
inductive ComponentError where
  /-- No component has the name. -/
  | notFound (name : String)
  /-- The parameters name no component. -/
  | missingName
  /-- The component refused to start. -/
  | failed (name detail : String)
deriving DecidableEq

/-- An error of the configuration. -/
inductive ConfigurationError where
  /-- No column has the field by which rows should be sorted. -/
  | unknownSortColumn (field : String)
  /-- No observed property has the name of an attribute. -/
  | unknownAttribute (name : String)
  /-- Anything else that the configuration gets wrong. -/
  | stated (detail : String)
deriving DecidableEq

/-- An error of the library. -/
inductive Error where
  /-- An expression is faulty. -/
  | expression (e : ExpressionError)
  /-- A date is faulty. -/
  | date (e : DateError)
  /-- A component is missing or does not start. -/
  | component (e : ComponentError)
  /-- The configuration is faulty. -/
  | configuration (e : ConfigurationError)
  /-- A file cannot be read. -/
  | file
  /-- A JSON text cannot be read. -/
  | json (e : ReadError)
  /-- A YAML text cannot be read. -/
  | yaml (e : ReadError)
  /-- Any other error. -/
  | other (detail : String)
deriving DecidableEq

/-- The text of a tag: what a text says, the JSON text of any other value, and a word for none. -/
def tagText : Option Value → String
  | none => "undefined"
  | some (.string s) => s
  | some v => v.render

namespace Expression

/-- The wording of the causes that concern the form of a node. -/
def Cause.detail : Cause → String
  | .unknownKind tag => tagText tag
  | .unknownOperator symbol => tagText symbol
  | .notAnObject got => "expected an expression object, got " ++ got.render
  | .fieldMissing => "field reference without 'value'"
  | .fieldNotNamed got => "field reference must name a field, got " ++ got.render
  | .bodyMissing symbol => "operator '" ++ symbol ++ "' without 'body'"
  | .bodyNotAnObject => "binary operator body must be an object"
  | .operandMissing side => "missing '" ++ side.name ++ "' operand"
  | .takesOne op => "operator '" ++ op.symbol ++ "' takes a single operand"
  | .takesTwo op => "operator '" ++ op.symbol ++ "' takes left and right operands"
  | .invalidText => "invalid JSON"

/-- The error of a fault. -/
def Fault.report (fault : Fault) : ExpressionError :=
  let path := pathText fault.path
  match fault.cause with
  | .unknownKind _ => .unknownKind fault.cause.detail path
  | .unknownOperator _ => .unknownOperator fault.cause.detail path
  | _ => .malformed fault.cause.detail path

end Expression

namespace ExpressionError

/-- The path of the offending node. -/
def path : ExpressionError → String
  | unknownKind _ path => path
  | unknownOperator _ path => path
  | malformed _ path => path

/-- The offending tag; a node of the wrong form has none. -/
def tag : ExpressionError → Option String
  | unknownKind kind _ => some kind
  | unknownOperator operator _ => some operator
  | malformed _ _ => none

/-- The wording of the error. -/
def message : ExpressionError → String
  | unknownKind kind path => "Not a valid expression type: " ++ kind ++ " (at " ++ path ++ ")"
  | unknownOperator operator path => "Not a valid operator: " ++ operator ++ " (at " ++ path ++ ")"
  | malformed detail path => "Malformed expression at " ++ path ++ ": " ++ detail

end ExpressionError

/-- The wording of an error of a date. -/
def DateError.message : DateError → String
  | invalidDate text => "Invalid date: '" ++ text ++ "'"
  | invalidRange text => "Invalid date range: '" ++ text ++ "'"

/-- The wording of an error of a component. -/
def ComponentError.message : ComponentError → String
  | notFound name => "Couldn't find component '" ++ name ++ "'. Register it before mounting."
  | missingName => "Missing componentName in cell params"
  | failed name detail => "Component '" ++ name ++ "' failed to initialise: " ++ detail

/-- The wording of an error of the configuration, without its heading. -/
def ConfigurationError.detail : ConfigurationError → String
  | unknownSortColumn field => "Unknown sort column: " ++ field
  | unknownAttribute name => "Unknown attribute: " ++ name
  | stated detail => detail

/-- The wording of a problem of a text, where the library itself found it. -/
def ReadError.message? : ReadError → Option String
  | expression fault => some fault.report.message
  | menuEntry got => some ("menu entry must be a name or an item, got " ++ got.render)
  | _ => none

/-- The wording of a problem of a text. -/
def ReadError.message (e : ReadError) : String :=
  match e with
  | malformed => "the text is not well formed"
  | unfinished => "the text ends too early"
  | surplus => "too many items"
  | shape => "a value is missing or has the wrong type"
  | e => e.message?.getD ""

/-- The wording of an error. -/
def Error.message : Error → String
  | expression e => e.message
  | date e => e.message
  | component e => e.message
  | configuration e => "Configuration error: " ++ e.detail
  | file => "the file cannot be read"
  | json e => e.message
  | yaml e => e.message
  | other detail => detail

end GridRules
