import GridRules.Grid.Report
import GridRules.Proofs.Dictionary
import GridRules.Proofs.Grid.Problems
import GridRules.Proofs.Grid.SortedRows
import Mathlib.Data.List.Sort

/-!
# The parts of a report

A report goes over the columns, collects the classes of the cells into a dictionary by field, and
reads the menu and the filter; a host asks for one column at a time, and gets the first one with the
field.  The two agree because no two columns of a grid without problems have one field
(`Grid.nodup_fields`): then a field and its column tell each other
(`Grid.column?_eq_some_iff`), and nothing is lost when the classes are collected
(`Dictionary.get?_ofList_eq_some_iff`).

Each class has a rule of its own.  A list of classes is determined by its rules
(`ClassRules.Lists`), so a change of one rule adds or removes its own class and no other.
-/

namespace GridRules

variable {row : Row}

/-! ## Classes -/

lemma Slot.resolveOr_eq_true_iff {slot : Slot Bool} :
    slot.resolveOr row false = true ↔ slot.resolve row = .ok true := by
  rw [resolveOr]
  cases slot.resolve row <;> simp

namespace ClassRules

/-- The classes are, in ascending order, those whose own rule holds. -/
structure Lists (rules : ClassRules) (row : Row) (classes : List String) : Prop where
  /-- The classes ascend strictly. -/
  ascending : classes.Pairwise (· < ·)
  /-- A class is listed when its rule holds, whatever the others say. -/
  mem_iff : ∀ name, name ∈ classes
    ↔ ∃ slot, rules.get? name = some slot ∧ slot.resolve row = .ok true

/-- Two families of rules have the same rule for all classes but one. -/
def SameExcept (name : String) (rules others : ClassRules) : Prop :=
  ∀ other ≠ name, others.get? other = rules.get? other

lemma sameExcept_insert (rules : ClassRules) (name : String) (slot : Slot Bool) :
    rules.SameExcept name (rules.insert name slot) := by
  intro other hne
  rw [Dictionary.get?_insert, if_neg hne]

theorem lists_applied (rules : ClassRules) (row : Row) : rules.Lists row (rules.applied row) where
  ascending := List.pairwise_map.2 (rules.ascending.filter _)
  mem_iff := by
    intro name
    simp only [applied, List.mem_map, List.mem_filter, Prod.exists, exists_and_right,
      exists_eq_right, Dictionary.get?_eq_some_iff, Slot.resolveOr_eq_true_iff]

/-- A change of one rule changes its own class only. -/
theorem Lists.filter_ne {rules others : ClassRules} {name : String}
    {classes otherClasses : List String} (h : rules.Lists row classes) (hother : others.Lists row
    otherClasses) (hsame : SameExcept name rules others) :
    otherClasses.filter (· ≠ name) = classes.filter (· ≠ name) := by
  refine (hother.ascending.filter _).eq_of_mem_iff (h.ascending.filter _) fun n => ?_
  rw [List.mem_filter, List.mem_filter, decide_eq_true_eq]
  refine and_congr_left fun hne => ?_
  rw [hother.mem_iff, h.mem_iff, hsame n hne]

end ClassRules

/-! ## Columns of distinct fields -/

namespace Grid

variable {g : Grid} {field : String} {c : Column} {filter : Option DateFilter}

lemma nodup_fields (h : g.problems = []) : (g.columns.map (·.field)).Nodup :=
  (problems_eq_nil_iff.1 h).nodup_fields

/-- The column of a field is the one that has it. -/
lemma column?_eq_some_iff (hfields : (g.columns.map (·.field)).Nodup) :
    g.column? field = some c ↔ c ∈ g.columns ∧ c.field = field := by
  constructor
  · intro h
    exact ⟨List.mem_of_find?_eq_some h, by simpa using List.find?_some h⟩
  · rintro ⟨hc, hfield⟩
    obtain ⟨before, after, hg⟩ := List.append_of_mem hc
    refine column?_of_first hg (fun d hd heq => ?_) hfield
    rw [hg, List.map_append, List.nodup_append] at hfields
    exact hfields.2.2 d.field (List.mem_map_of_mem hd) c.field (by simp) (heq.trans hfield.symm)

/-! ## What a report holds -/

lemma editable_sublist (g : Grid) (row : Row) :
    (g.editableFields row).Sublist (g.columns.map (·.field)) :=
  List.filter_sublist.map _

lemma mem_editableFields_iff (hfields : (g.columns.map (·.field)).Nodup) :
    field ∈ g.editableFields row
      ↔ ∃ c, g.column? field = some c ∧ c.isEditable row = true := by
  simp only [editableFields, List.mem_map, List.mem_filter, column?_eq_some_iff hfields]
  exact exists_congr fun c => by tauto

/-- The classes of a cell are found under its field, where there are any. -/
lemma get?_cellClasses_eq_some_iff (hfields : (g.columns.map (·.field)).Nodup)
    {classes : List String} : (g.report row filter).cellClasses.get? field = some classes
      ↔ ∃ c, g.column? field = some c ∧ c.cellClasses row ≠ [] ∧ classes = c.cellClasses row := by
  -- fewer pairs than columns, each with the field of its column
  have hpairs : (((g.columns.map fun c => (c.field, c.cellClasses row)).filter
      fun e => !e.2.isEmpty).map (·.1)).Nodup := by
    refine List.Nodup.sublist (List.filter_sublist.map _) ?_
    rw [List.map_map]
    exact hfields
  rw [report, Dictionary.get?_ofList_eq_some_iff hpairs]
  simp only [List.mem_filter, List.mem_map, column?_eq_some_iff hfields, Prod.mk.injEq]
  constructor
  · rintro ⟨⟨c, hc, hfield, rfl⟩, hclasses⟩
    exact ⟨c, ⟨hc, hfield⟩, by simpa using hclasses, rfl⟩
  · rintro ⟨c, ⟨hc, hfield⟩, hclasses, rfl⟩
    exact ⟨⟨c, hc, hfield, rfl⟩, by simpa using hclasses⟩

/-- A report has the classes of the first column of a field, unless there are none. -/
lemma get?_cellClasses (hfields : (g.columns.map (·.field)).Nodup) :
    (g.report row filter).cellClasses.get? field
      = ((g.column? field).map (·.cellClasses row)).filter (· ≠ []) := by
  refine Option.ext fun classes => ?_
  rw [get?_cellClasses_eq_some_iff hfields, Option.filter_eq_some_iff, decide_eq_true_eq,
    Option.map_eq_some_iff]
  constructor
  · rintro ⟨c, hc, hclasses, rfl⟩
    exact ⟨⟨c, hc, rfl⟩, hclasses⟩
  · rintro ⟨⟨c, hc, rfl⟩, hclasses⟩
    exact ⟨c, hc, hclasses, rfl⟩

lemma getD_cellClasses (hfields : (g.columns.map (·.field)).Nodup)
    (hc : g.column? field = some c) :
    ((g.report row filter).cellClasses.get? field).getD [] = c.cellClasses row := by
  rw [get?_cellClasses hfields, hc, Option.map_some, Option.filter_some]
  by_cases hclasses : c.cellClasses row = []
  · simp [hclasses]
  · simp [hclasses]

/-! ## A change of one rule -/

/-- Other rules for the rows change the classes of the row. -/
lemma report_with_rowClassRules (g : Grid) (rules : ClassRules) :
    { g with rowClassRules := rules }.report row filter
      = { g.report row filter with rowClasses := rules.applied row } := rfl

/-- The grid with other rules for the cells of one column, which stands between others. -/
def withCellClassRules (g : Grid) (before : List Column) (c : Column) (after : List Column)
    (rules : ClassRules) : Grid :=
  { g with columns := before ++ { c with cellClassRules := rules } :: after }

variable {before after : List Column} {rules : ClassRules}

lemma nodup_fields_with (rules : ClassRules) (hg : g.columns = before ++ c :: after)
    (hfields : (g.columns.map (·.field)).Nodup) :
    ((g.withCellClassRules before c after rules).columns.map (·.field)).Nodup := by
  rw [hg] at hfields
  simpa [withCellClassRules] using hfields

/-- Other rules for the cells of one column change at most the classes of the cells. -/
lemma report_with_cellClassRules (hg : g.columns = before ++ c :: after) :
    (g.withCellClassRules before c after rules).report row filter
      = { g.report row filter with cellClasses :=
            ((g.withCellClassRules before c after rules).report row filter).cellClasses } := by
  have heditable : (g.withCellClassRules before c after rules).editableFields row
      = g.editableFields row := by
    rw [editableFields, editableFields, hg, withCellClassRules, List.filter_append,
      List.filter_append, List.map_append, List.map_append]
    refine congrArg (_ ++ ·) ?_
    -- whether a cell may be edited does not depend on its classes
    have hsame : { c with cellClassRules := rules }.isEditable row = c.isEditable row := rfl
    rw [List.filter_cons, List.filter_cons, hsame]
    split <;> rfl
  rw [report, report, heditable]
  rfl

lemma column?_with_of_ne (hg : g.columns = before ++ c :: after) (hne : field ≠ c.field) :
    (g.withCellClassRules before c after rules).column? field = g.column? field := by
  have hskip : (c.field == field) = false := beq_false_of_ne hne.symm
  rw [column?, column?, hg, withCellClassRules, List.find?_append, List.find?_append,
    List.find?_cons, List.find?_cons, hskip]

/-- The classes of the cells of other columns stay, and of the classes of the column all those whose
rule stays. -/
lemma cellClasses_with_cellClassRules {name : String} (hg : g.columns = before ++ c :: after)
    (hfields : (g.columns.map (·.field)).Nodup) (hsame : c.cellClassRules.SameExcept name rules) :
    let r := g.report row filter
    let r' := (g.withCellClassRules before c after rules).report row filter
    (∀ other ≠ c.field, r'.cellClasses.get? other = r.cellClasses.get? other)
      ∧ ((r'.cellClasses.get? c.field).getD []).filter (· ≠ name)
        = ((r.cellClasses.get? c.field).getD []).filter (· ≠ name) := by
  have hfields' := nodup_fields_with rules hg hfields
  refine ⟨fun other hne => ?_, ?_⟩
  · rw [get?_cellClasses hfields, get?_cellClasses hfields', column?_with_of_ne hg hne]
  · have hc : g.column? c.field = some c :=
      (column?_eq_some_iff hfields).2 ⟨by simp [hg], rfl⟩
    have hc' : (g.withCellClassRules before c after rules).column? c.field
        = some { c with cellClassRules := rules } :=
      (column?_eq_some_iff hfields').2 ⟨by simp [withCellClassRules], rfl⟩
    rw [getD_cellClasses hfields hc, getD_cellClasses hfields' hc']
    exact (c.cellClassRules.lists_applied row).filter_ne (rules.lists_applied row) hsame

end Grid

/-! ## The menu -/

/-- The label of an item whose rule disables it. -/
def MenuEntry.disabledName? (row : Row) : MenuEntry → Option String
  | builtIn _ => none
  | item i =>
    match i.disabled.resolve row with
    | .ok true => some i.name
    | _ => none

lemma MenuEntry.disabledName?_eq (row : Row) (entry : MenuEntry) : entry.disabledName? row
    = if (entry.resolve row).isDisabled then some (entry.resolve row).name else none := by
  cases entry with
  | builtIn name => rfl
  | item i =>
    cases hdisabled : i.disabled.resolve row with
    | error fault =>
      simp [disabledName?, resolve, ResolvedEntry.isDisabled, MenuItem.isDisabled, Slot.resolveOr,
        hdisabled]
    | ok disabled =>
      cases disabled <;>
        simp [disabledName?, resolve, ResolvedEntry.isDisabled, ResolvedEntry.name,
          MenuItem.isDisabled, Slot.resolveOr, hdisabled]

lemma Grid.disabledMenuItems_eq (g : Grid) (row : Row) (filter : Option DateFilter) :
    (g.report row filter).disabledMenuItems
      = g.contextMenu.filterMap (MenuEntry.disabledName? row) := by
  change ((g.contextMenu.map (MenuEntry.resolve row)).filter (·.isDisabled)).map (·.name) = _
  rw [List.filter_map, List.map_map, ← List.filterMap_eq_map, List.filterMap_filter]
  exact List.filterMap_congr fun entry _ => (entry.disabledName?_eq row).symm

lemma Grid.passesFilter_eq_some_iff {g : Grid} {filter : Option DateFilter} {b : Bool} :
    (g.report row filter).passesFilter = some b
      ↔ ∃ f, filter = some f ∧ f.isActive = true ∧ b = f.passes row := by
  rw [report, Option.map_eq_some_iff]
  refine exists_congr fun f => ?_
  rw [Option.filter_eq_some_iff, and_assoc, eq_comm (a := b)]

/-! ## The report and its parts -/

/-- The report on a row of a grid without problems says what the parts of the grid say one by one.
* The fields to be edited are those whose column says so, in the order of the columns.
* A cell has an entry when its column gives it classes, and the entry lists these.
* The classes of the row and of each cell ascend, and are those whose own rule holds; so another
  rule for one class of the row, or of the cells of one column, changes that class and nothing else.
* The disabled items are those whose rule holds, in the order of the menu.
* The filter has a say when one is given and active. -/
theorem Grid.report_agrees_with_parts (g : Grid) (hvalid : g.problems = []) (row : Row)
    (filter : Option DateFilter) :
    let r := g.report row filter
    (r.editable.Sublist (g.columns.map (·.field)) ∧ r.editable.Nodup
      ∧ ∀ field, field ∈ r.editable
        ↔ ∃ c, g.column? field = some c ∧ c.isEditable row = true) ∧
    (∀ field classes, r.cellClasses.get? field = some classes
      ↔ ∃ c, g.column? field = some c ∧ c.cellClasses row ≠ [] ∧ classes = c.cellClasses row) ∧
    (g.rowClassRules.Lists row r.rowClasses
      ∧ ∀ c ∈ g.columns,
        c.cellClassRules.Lists row ((r.cellClasses.get? c.field).getD [])) ∧
    (∀ name rules, g.rowClassRules.SameExcept name rules →
      ∃ rowClasses, { g with rowClassRules := rules }.report row filter
          = { r with rowClasses := rowClasses }
        ∧ rowClasses.filter (· ≠ name) = r.rowClasses.filter (· ≠ name)) ∧
    (∀ before c after, g.columns = before ++ c :: after →
      ∀ name rules, c.cellClassRules.SameExcept name rules →
        ∃ cellClasses, (g.withCellClassRules before c after rules).report row filter
            = { r with cellClasses := cellClasses }
          ∧ (∀ other ≠ c.field, cellClasses.get? other = r.cellClasses.get? other)
          ∧ ((cellClasses.get? c.field).getD []).filter (· ≠ name)
            = ((r.cellClasses.get? c.field).getD []).filter (· ≠ name)) ∧
    r.disabledMenuItems = g.contextMenu.filterMap (MenuEntry.disabledName? row) ∧
    ∀ b, r.passesFilter = some b
      ↔ ∃ f, filter = some f ∧ f.isActive = true ∧ b = f.passes row := by
  intro r
  have hfields := nodup_fields hvalid
  refine ⟨⟨editable_sublist g row, (editable_sublist g row).nodup hfields,
      fun _ => mem_editableFields_iff hfields⟩,
    fun _ _ => get?_cellClasses_eq_some_iff hfields,
    ⟨g.rowClassRules.lists_applied row, fun c hc => ?_⟩, fun name rules hsame => ?_,
    fun before c after hg name rules hsame => ?_, disabledMenuItems_eq g row filter,
    fun _ => passesFilter_eq_some_iff⟩
  · rw [getD_cellClasses hfields ((column?_eq_some_iff hfields).2 ⟨hc, rfl⟩)]
    exact c.cellClassRules.lists_applied row
  · exact ⟨rules.applied row, report_with_rowClassRules g rules,
      (g.rowClassRules.lists_applied row).filter_ne (rules.lists_applied row) hsame⟩
  · exact ⟨_, report_with_cellClassRules hg, cellClasses_with_cellClassRules hg hfields hsame⟩

/-- A locked row: its amount cannot be edited and its menu has an item that is disabled; a rule for
one more class of the amount leaves the class that it had. -/
theorem Grid.report_of_locked_row :
    let locked : Slot Bool := .computed (.field "locked")
    let late : ClassRules := Dictionary.empty.insert "late" (.fixed true)
    let id : Column := { Column.new "id" with editable := .fixed true }
    let amount : Column := { Column.new "amount" with
      editable := .computed (.unary .not (.field "locked")), cellClassRules := late }
    let g : Grid := ⟨"orders", "", [id, amount], .empty,
      [.builtIn "copy", .item { MenuItem.new "delete" with disabled := locked }], ⟨false, false⟩⟩
    let row := Row.empty.insert "locked" (.bool true)
    let day : DateFilter := ⟨"id", none, Date.ofParts? 2024 5 1⟩
    let r := g.report row (some day)
    g.problems = []
      ∧ ("id" ∈ r.editable ∧ "amount" ∉ r.editable)
      ∧ r.cellClasses.get? "amount" = some ["late"]
      ∧ (∃ cellClasses, (g.withCellClassRules [id] amount [] (late.insert "shut" locked)).report row
            (some day) = { r with cellClasses := cellClasses }
          ∧ cellClasses.get? "id" = r.cellClasses.get? "id")
      ∧ r.disabledMenuItems = ["delete"]
      ∧ r.passesFilter = some false := by
  intro locked late id amount g row day r
  have hvalid : g.problems = [] := by decide +kernel
  obtain ⟨⟨-, -, heditable⟩, hcells, -, -, hrules, hmenu, hfilter⟩ :=
    report_agrees_with_parts g hvalid row (some day)
  have hid : g.column? "id" = some id := rfl
  have hamount : g.column? "amount" = some amount := rfl
  refine ⟨hvalid, ⟨(heditable _).2 ⟨id, hid, rfl⟩, ?_⟩,
    (hcells _ _).2 ⟨amount, hamount, by decide +kernel, by decide +kernel⟩, ?_,
    hmenu.trans (by decide +kernel), (hfilter _).2 ⟨day, rfl, by decide +kernel, by decide +kernel⟩⟩
  · intro hmem
    obtain ⟨c, hc, hedit⟩ := (heditable _).1 hmem
    obtain rfl := Option.some.inj (hamount.symm.trans hc)
    exact absurd hedit (by decide +kernel)
  · obtain ⟨cellClasses, hreport, hothers, -⟩ :=
      hrules [id] amount [] rfl "shut" _ (ClassRules.sameExcept_insert late "shut" locked)
    exact ⟨cellClasses, hreport, hothers _ (by decide)⟩

end GridRules
