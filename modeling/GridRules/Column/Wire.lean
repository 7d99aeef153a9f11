import GridRules.Column.Basic

/-!
# Columns as documents

Decoding a column from a document, and the object that a column is written as. An object lists every
field of the column; what is not configured is null.
-/

namespace GridRules

namespace ComponentSpec

/-- The fields of a component reference while it is decoded. -/
structure Draft where
  /-- The name of the component. -/
  componentName : Option String
  /-- Further parameters. -/
  params : Option (Option Value)

/-- Takes a field into the draft. -/
def Draft.take (draft : Draft) (name : String) (d : Document) : Except ReadError Draft :=
  match name with
  | "component_name" =>
    (Document.once draft.componentName Document.asText d).map
      fun x => { draft with componentName := x }
  | _ =>
    (Document.once draft.params (Document.optional Document.toValue) d).map
      fun x => { draft with params := x }

/-- The component reference that a document writes. -/
def decode (d : Document) : Except ReadError ComponentSpec :=
  match Document.structureOf ["component_name", "params"] 0 ⟨none, none⟩ Draft.take d with
  | .error e => .error e
  | .ok draft =>
    (Document.required draft.componentName).map fun name => ⟨name, draft.params.getD none⟩

/-- The component reference as an object. -/
def toValue (c : ComponentSpec) : Value :=
  .object [("component_name", .string c.componentName), ("params", Value.ofOption id c.params)]

end ComponentSpec

namespace FilterSpec

/-- The fields of a filter while it is decoded: whether its kind was told, and its range field. -/
structure Draft where
  /-- The kind, once it is told. -/
  kind : Option Unit
  /-- The range fields in the order of the document. -/
  rangeFields : List Value

/-- The kinds of filter. -/
def decodeKind (d : Document) : Except ReadError Unit :=
  match d.asText with
  | .error e => .error e
  | .ok kind => if kind = "date_range" then .ok () else .error .shape

/-- Takes a field into the draft. The kind may follow the other fields, so these are kept as values
until it is known. -/
def Draft.take (draft : Draft) (name : String) (d : Document) : Except ReadError Draft :=
  match name with
  | "kind" => (Document.once draft.kind decodeKind d).map fun x => { draft with kind := x }
  | _ => d.toValue.map fun v => { draft with rangeFields := draft.rangeFields ++ [v] }

/-- The range field that the kept values write. -/
def rangeFieldOf : List Value → Except ReadError (Option String)
  | [] => .ok none
  | [.null] => .ok none
  | [.string s] => .ok (some s)
  | _ => .error .shape

/-- Passes over a field that a filter does not know. It has to be readable all the same. -/
def passOver (d : Document) : Except ReadError Unit := d.toValue.map fun _ => ()

/-- Takes the entries of a filter into a draft. -/
def takeEntries : Draft → List (Document × Document) → Except ReadError Draft
  | draft, [] => .ok draft
  | draft, (k, d) :: r =>
    match k.asText with
    | .error e => .error e
    | .ok name =>
      if name = "kind" ∨ name = "range_field" then
        match draft.take name d with
        | .error e => .error e
        | .ok draft => takeEntries draft r
      else
        match passOver d with
        | .error e => .error e
        | .ok () => takeEntries draft r

/-- Takes the items of a filter that is written as a list: its kind, then its range field. -/
def takeItems : List Document → Except ReadError Draft
  | [] => .error .shape
  | k :: r =>
    match decodeKind k with
    | .error e => .error e
    | .ok () =>
      match Document.itemValues r with
      | .error e => .error e
      | .ok values => if values.length ≤ 1 then .ok ⟨some (), values⟩ else .error .shape

/-- The filter that a document writes. -/
def decode (d : Document) : Except ReadError FilterSpec :=
  let draft := match d with
    | .table entries => takeEntries ⟨none, []⟩ entries
    | .list items => takeItems items
    | d => .error d.refusal
  match draft with
  | .error e => .error e
  | .ok draft =>
    match draft.kind with
    | none => .error .shape
    | some () => (rangeFieldOf draft.rangeFields).map .dateRange

/-- The filter as an object. -/
def toValue : FilterSpec → Value
  | .dateRange rangeField =>
    .object [("kind", .string "date_range"), ("range_field", Value.ofOption .string rangeField)]

end FilterSpec

namespace Comparator

/-- The comparator of a name. -/
def ofName (name : String) : Except ReadError Comparator :=
  if name = "date_time" then .ok .dateTime else .error .shape

/-- The comparator that a name with a content writes; it has no content. -/
def ofNamed (k content : Document) : Except ReadError Comparator :=
  match k.asText with
  | .error e => .error e
  | .ok name =>
    match ofName name with
    | .error e => .error e
    | .ok c => if content.isNull then .ok c else .error content.refusal

/-- The comparator that a document writes: its name, its name as a tag, or an object whose one field
has the name. -/
def decode (d : Document) : Except ReadError Comparator :=
  match d with
  | .text name => ofName name
  | .scalar style tag s =>
    match tag.filter Document.isLocalTag with
    | none => ofName s
    | some tag => ofNamed (.text (String.ofList (tag.toList.drop 1))) (.scalar style none s)
  | .table [] => .error .surplus
  | .table ((.text name, content) :: r) =>
    match ofNamed (.text name) content with
    | .error e => .error e
    | .ok c =>
      match r with
      | [] => .ok c
      | (.cut reason, _) :: _ => .error reason
      | _ => .error .surplus
  | .table ((k, _) :: _) => .error k.refusal
  | d => .error d.refusal

/-- The comparator as a text. -/
def toValue : Comparator → Value
  | .dateTime => .string "date_time"

end Comparator

namespace Column

/-- The fields of a column while it is decoded. -/
structure Draft where
  /-- The field that is shown. -/
  field : Option String
  /-- The label. -/
  headerName : Option (Option String)
  /-- Whether a cell may be edited. -/
  editable : Option (Slot Bool)
  /-- The classes of a cell. -/
  cellClassRules : Option ClassRules
  /-- What renders a cell. -/
  renderer : Option (Option ComponentSpec)
  /-- What edits a cell. -/
  editor : Option (Option ComponentSpec)
  /-- What filters the rows. -/
  filter : Option (Option FilterSpec)
  /-- What orders the rows. -/
  comparator : Option (Option Comparator)
  /-- The decimal format. -/
  decimal : Option (Option DecimalSettings)

/-- The draft before anything is taken into it. -/
def Draft.start : Draft := ⟨none, none, none, none, none, none, none, none, none⟩

/-- The names of the fields in order. -/
def fieldNames : List String :=
  ["field", "header_name", "editable", "cell_class_rules", "renderer", "editor", "filter",
    "comparator", "decimal"]

/-- Takes a field into the draft. -/
def Draft.take (t : Draft) (name : String) (d : Document) : Except ReadError Draft :=
  match name with
  | "field" => (Document.once t.field Document.asText d).map fun x => { t with field := x }
  | "header_name" =>
    (Document.once t.headerName (Document.optional Document.asText) d).map
      fun x => { t with headerName := x }
  | "editable" => (Document.once t.editable Slot.decode d).map fun x => { t with editable := x }
  | "cell_class_rules" =>
    (Document.once t.cellClassRules ClassRules.decode d).map
      fun x => { t with cellClassRules := x }
  | "renderer" =>
    (Document.once t.renderer (Document.optional ComponentSpec.decode) d).map
      fun x => { t with renderer := x }
  | "editor" =>
    (Document.once t.editor (Document.optional ComponentSpec.decode) d).map
      fun x => { t with editor := x }
  | "filter" =>
    (Document.once t.filter (Document.optional FilterSpec.decode) d).map
      fun x => { t with filter := x }
  | "comparator" =>
    (Document.once t.comparator (Document.optional Comparator.decode) d).map
      fun x => { t with comparator := x }
  | _ =>
    (Document.once t.decimal (Document.optional DecimalSettings.decode) d).map
      fun x => { t with decimal := x }

/-- The column of a draft; only the field has to be there. -/
def Draft.finish (t : Draft) : Except ReadError Column :=
  (Document.required t.field).map fun field =>
    ⟨field, t.headerName.getD none, t.editable.getD .unset, t.cellClassRules.getD .empty,
      t.renderer.getD none, t.editor.getD none, t.filter.getD none, t.comparator.getD none,
      t.decimal.getD none⟩

/-- The column that a document writes. As a list a column has all its fields. -/
def decode (d : Document) : Except ReadError Column :=
  match Document.structureOf fieldNames 9 Draft.start Draft.take d with
  | .error e => .error e
  | .ok draft => draft.finish

/-- The column as an object. -/
def toValue (c : Column) : Value :=
  .object [("cell_class_rules", c.cellClassRules.toValue),
    ("comparator", Value.ofOption Comparator.toValue c.comparator),
    ("decimal", Value.ofOption DecimalSettings.toValue c.decimal),
    ("editable", c.editable.toValue),
    ("editor", Value.ofOption ComponentSpec.toValue c.editor),
    ("field", .string c.field),
    ("filter", Value.ofOption FilterSpec.toValue c.filter),
    ("header_name", Value.ofOption .string c.headerName),
    ("renderer", Value.ofOption ComponentSpec.toValue c.renderer)]

end Column

end GridRules
