import GridRules.Grid.Report
import GridRules.Proofs.Expression.Fields

/-!
# The fields that a report reads

A report reads the fields of the rules of its grid, and the field of the filter; on two rows that
agree on these it is the same.  The rules are those of the columns (whether a cell may be edited,
and its classes), of whole rows, and of the items of the menu; each part of a report has one lemma,
which says that agreement on the rules of the part is enough.
-/

namespace GridRules

open Expression (AgreeOn)

/-- The expressions of class rules. -/
def ClassRules.rules (rules : ClassRules) : List Expression :=
  rules.entries.filterMap fun rule => rule.2.expression?

/-- The expressions of a column: the one that says whether a cell may be edited, and those of the
classes of a cell. -/
def Column.rules (c : Column) : List Expression :=
  c.editable.expression?.toList ++ c.cellClassRules.rules

/-- The expression of an entry of a menu, which says whether it is disabled. -/
def MenuEntry.rules : MenuEntry → List Expression
  | builtIn _ => []
  | item i => i.disabled.expression?.toList

/-- The expressions of a grid. -/
def Grid.rules (g : Grid) : List Expression :=
  g.columns.flatMap Column.rules ++ g.rowClassRules.rules
    ++ g.contextMenu.flatMap MenuEntry.rules

/-- Two rows agree on the fields of some expressions. -/
def AgreeOnRules (rules : List Expression) (row other : Row) : Prop :=
  ∀ e ∈ rules, AgreeOn e.fields row other

variable {row other : Row}

lemma AgreeOnRules.mono {rules rules' : List Expression} (h : AgreeOnRules rules row other)
    (hsub : ∀ e ∈ rules', e ∈ rules) : AgreeOnRules rules' row other :=
  fun e he => h e (hsub e he)

lemma Slot.resolveOr_congr {α : Type} [SlotType α] {slot : Slot α}
    (h : AgreeOnRules slot.expression?.toList row other) (fallback : α) :
    slot.resolveOr row fallback = slot.resolveOr other fallback := by
  cases slot with
  | fixed a => rfl
  | computed e =>
    have he : e.evaluate row = e.evaluate other :=
      Expression.evaluate_congr (h e (by simp [expression?]))
    rw [resolveOr, resolveOr, resolve, resolve, he]

lemma ClassRules.applied_congr {rules : ClassRules} (h : AgreeOnRules rules.rules row other) :
    rules.applied row = rules.applied other := by
  rw [applied, applied]
  refine congrArg _ (List.filter_congr fun rule hrule => ?_)
  refine Slot.resolveOr_congr (fun e he => h e ?_) false
  exact List.mem_filterMap.2 ⟨rule, hrule, Option.mem_toList.1 he⟩

lemma Column.isEditable_congr {c : Column} (h : AgreeOnRules c.rules row other) :
    c.isEditable row = c.isEditable other :=
  Slot.resolveOr_congr (h.mono fun _ he => List.mem_append_left _ he) false

lemma Column.cellClasses_congr {c : Column} (h : AgreeOnRules c.rules row other) :
    c.cellClasses row = c.cellClasses other :=
  ClassRules.applied_congr (h.mono fun _ he => List.mem_append_right _ he)

lemma MenuEntry.resolve_congr {entry : MenuEntry} (h : AgreeOnRules entry.rules row other) :
    entry.resolve row = entry.resolve other := by
  cases entry with
  | builtIn name => rfl
  | item i =>
    have hdisabled : i.isDisabled row = i.isDisabled other := Slot.resolveOr_congr h false
    rw [resolve, resolve, hdisabled]

lemma DateFilter.passes_congr {f : DateFilter} (h : row.get? f.field = other.get? f.field) :
    f.passes row = f.passes other := by
  rw [passes, passes, h]

lemma Grid.rules_of_column {g : Grid} {c : Column} (hc : c ∈ g.columns) :
    ∀ e ∈ c.rules, e ∈ g.rules := fun _ he =>
  List.mem_append_left _ (List.mem_append_left _ (List.mem_flatMap.2 ⟨c, hc, he⟩))

lemma Grid.editableFields_congr {g : Grid} (h : AgreeOnRules g.rules row other) :
    g.editableFields row = g.editableFields other := by
  rw [editableFields, editableFields]
  refine congrArg _ (List.filter_congr fun c hc => ?_)
  exact Column.isEditable_congr (h.mono (rules_of_column hc))

lemma Grid.menuFor_congr {g : Grid} (h : AgreeOnRules g.rules row other) :
    g.menuFor row = g.menuFor other := by
  refine List.map_congr_left fun entry hentry => MenuEntry.resolve_congr (h.mono fun e he => ?_)
  exact List.mem_append_right _ (List.mem_flatMap.2 ⟨entry, hentry, he⟩)

lemma Grid.rowClasses_congr {g : Grid} (h : AgreeOnRules g.rules row other) :
    g.rowClasses row = g.rowClasses other :=
  ClassRules.applied_congr
    (h.mono fun _ he => List.mem_append_left _ (List.mem_append_right _ he))

theorem Grid.report_congr {g : Grid} {filter : Option DateFilter}
    (h : AgreeOnRules g.rules row other)
    (hfilter : ∀ f, filter = some f → row.get? f.field = other.get? f.field) :
    g.report row filter = g.report other filter := by
  have hcells : (g.columns.map fun c => (c.field, c.cellClasses row))
      = g.columns.map fun c => (c.field, c.cellClasses other) := by
    refine List.map_congr_left fun c hc => ?_
    rw [Column.cellClasses_congr (h.mono (rules_of_column hc))]
  have hpasses : (filter.filter (·.isActive)).map (·.passes row)
      = (filter.filter (·.isActive)).map (·.passes other) := by
    refine Option.map_congr fun f hf => DateFilter.passes_congr (hfilter f ?_)
    exact (Option.filter_eq_some_iff.1 hf).1
  rw [report, report, editableFields_congr h, hcells, rowClasses_congr h, menuFor_congr h, hpasses]

/-- Rules read only the fields that they declare.  An expression lists every field that it
references once, in the order in which the references first appear from left to right, and nothing
else; rows that agree on these fields give it the same value.  Rows that agree on the fields of all
rules of a grid and on the field of the filter have the same report. -/
theorem rules_read_only_their_fields :
    (∀ e : Expression, e.fields.Nodup
      ∧ (∀ name, name ∈ e.fields ↔ ∃ node ∈ e.nodes, node.tree = .field name)
      ∧ ∀ a ∈ e.fields, ∀ b ∈ e.fields,
        (e.fields.idxOf a < e.fields.idxOf b ↔ e.references.idxOf a < e.references.idxOf b))
      ∧ (∀ (e : Expression) (row other : Row), AgreeOn e.fields row other →
        e.evaluate row = e.evaluate other)
      ∧ ∀ (g : Grid) (filter : Option DateFilter) (row other : Row),
        AgreeOnRules g.rules row other →
        (∀ f, filter = some f →
          row.get? (f.rangeField.getD f.column) = other.get? (f.rangeField.getD f.column)) →
        g.report row filter = g.report other filter := by
  refine ⟨fun e => ⟨e.nodup_fields, fun name => ?_, fun a ha b hb => ?_⟩,
    fun e row other h => Expression.evaluate_congr h,
    fun g filter row other h hfilter => Grid.report_congr h hfilter⟩
  · rw [Expression.mem_fields_iff, Expression.mem_references_iff]
  · exact Expression.idxOf_fields_lt_iff ha hb

/-- A field that no rule reads does not change the report. -/
theorem report_of_unread_field :
    let g : Grid := ⟨"orders", "",
      [{ Column.new "amount" with editable := .computed (.unary .not (.field "locked")) }],
      .empty, [], ⟨false, false⟩⟩
    let row := Row.empty.insert "locked" (.bool true)
    AgreeOnRules g.rules row (row.insert "note" (.string "late"))
      ∧ g.report row (some (.new "runtime" none))
        = g.report (row.insert "note" (.string "late")) (some (.new "runtime" none)) := by
  intro g row
  have h : AgreeOnRules g.rules row (row.insert "note" (.string "late")) := by
    intro e he name hname
    obtain rfl := List.mem_singleton.1 he
    obtain rfl := List.mem_singleton.1 hname
    rfl
  refine ⟨h, rules_read_only_their_fields.2.2 g _ _ _ h fun f hf => ?_⟩
  obtain rfl := Option.some.inj hf
  rfl

end GridRules
