import GridRules.Grid.Problem
import GridRules.Proofs.Text.Parts
import Mathlib.Data.Finset.Card

/-!
# The problems of a grid

The problems that a grid is told are the ones it has (`Grid.mem_problems_iff`), where having a
problem is said without the scan that finds them.  The scan goes through the columns in order and
knows the fields before each of them; the order decides at which column a repeated field is told,
and nothing else.  Up to their order the problems are those of the grid, the repeated names and the
problems that each column has by itself (`Grid.problems_perm_parts`), so permuted columns have
permuted problems.
-/

namespace GridRules

open Text (White)

variable {field : String} {before names : List String}

/-! ## Repeated fields -/

/-- The fields that occur before, in a list or in front of it, once for each repetition. -/
def repeatedAfter (before : List String) : List String → List String
  | [] => []
  | field :: r =>
    if field ∈ before then field :: repeatedAfter (field :: before) r
    else repeatedAfter (field :: before) r

/-- A field is repeated at each place, the first one aside if it does not occur before. -/
lemma count_repeatedAfter (field : String) (before names : List String) :
    (repeatedAfter before names).count field
      = if field ∈ before then names.count field else names.count field - 1 := by
  induction names generalizing before with
  | nil => simp [repeatedAfter]
  | cons other r ih =>
    rcases eq_or_ne other field with rfl | hne
    · by_cases hother : other ∈ before <;> simp [repeatedAfter, hother, ih]
    · by_cases hother : other ∈ before <;> simp [repeatedAfter, hother, ih, hne, hne.symm]

/-- The fields that occur more than once in a list, once for each repetition. -/
def repeated (names : List String) : List String := repeatedAfter [] names

lemma count_repeated (field : String) (names : List String) :
    (repeated names).count field = names.count field - 1 := by
  rw [repeated, count_repeatedAfter, if_neg List.not_mem_nil]

lemma mem_repeated_iff : field ∈ repeated names ↔ 2 ≤ names.count field := by
  rw [← List.count_pos_iff, count_repeated]
  omega

lemma repeated_perm {others : List String} (h : others.Perm names) :
    (repeated others).Perm (repeated names) := by
  rw [List.perm_iff_count]
  intro field
  rw [count_repeated, count_repeated, h.count_eq]

/-- What is not a repetition is each field once. -/
lemma perm_repeated_append_dedup (names : List String) :
    names.Perm (repeated names ++ names.dedup) := by
  rw [List.perm_iff_count]
  intro field
  rw [List.count_append, count_repeated, List.count_dedup]
  split
  · rename_i hmem
    have hpos := List.count_pos_iff.2 hmem
    omega
  · rename_i hnot
    rw [List.count_eq_zero.2 hnot]

/-! ## Problems of a column -/

variable {p : Problem} {c : Column} {columns : List Column}

lemma mem_problemIf_iff {condition : Bool} {problem : Problem} :
    p ∈ problemIf condition problem ↔ condition = true ∧ p = problem := by
  cases condition <;> simp [problemIf]

lemma Text.isBlank_iff {s : List Char} : isBlank s = true ↔ White s := List.all_eq_true

namespace Column

/-- Of the problems of a column only the repeated field depends on the columns before it. -/
lemma problems_perm (c : Column) (before : List String) :
    (c.problems before).Perm
      (problemIf (c.field ∈ before) (.duplicateField c.field) ++ c.problems []) := by
  have hfirst : problemIf (c.field ∈ ([] : List String)) (.duplicateField c.field) = [] := by
    simp [problemIf]
  unfold problems
  simp only [hfirst, List.append_nil, List.append_assoc]
  exact List.perm_append_comm_assoc _ _ _

/-- The problems of columns are the repeated names and what each column has by itself. -/
lemma problemsAfter_perm (before : List String) (columns : List Column) :
    (problemsAfter before columns).Perm
      ((repeatedAfter before (columns.map (·.field))).map .duplicateField
        ++ columns.flatMap (·.problems [])) := by
  induction columns generalizing before with
  | nil => rfl
  | cons c r ih =>
    have hstep := (c.problems_perm before).append (ih (c.field :: before))
    refine hstep.trans ?_
    rw [List.map_cons, repeatedAfter, List.flatMap_cons]
    split
    · rename_i hmem
      simp only [problemIf, hmem, decide_true, if_true, List.cons_append, List.map_cons]
      exact (List.perm_append_comm_assoc _ _ _).cons _
    · rename_i hnot
      simp only [problemIf, hnot, decide_false, Bool.false_eq_true, if_false, List.nil_append]
      exact List.perm_append_comm_assoc _ _ _

lemma mem_componentProblems_iff {component : Option ComponentSpec} :
    p ∈ c.componentProblems component ↔ ∃ spec, component = some spec
      ∧ White spec.componentName.toList ∧ p = .componentUnnamed c.field := by
  cases component with
  | none => simp [componentProblems]
  | some spec => simp [componentProblems, mem_problemIf_iff, Text.isBlank_iff]

/-- What a column has wrong by itself: its field is empty, its decimal places are too many, or a
component has a blank name. -/
lemma mem_problems_iff : p ∈ c.problems [] ↔ c.field = "" ∧ p = .emptyField
    ∨ (∃ s, c.decimal = some s ∧ maxDecimalPlaces < s.places.toNat
      ∧ p = .tooManyPlaces c.field s.places)
    ∨ ∃ spec, (c.renderer = some spec ∨ c.editor = some spec)
      ∧ White spec.componentName.toList ∧ p = .componentUnnamed c.field := by
  have hcomponents : (p ∈ c.componentProblems c.renderer ∨ p ∈ c.componentProblems c.editor)
      ↔ ∃ spec, (c.renderer = some spec ∨ c.editor = some spec)
        ∧ White spec.componentName.toList ∧ p = .componentUnnamed c.field := by
    simp only [mem_componentProblems_iff, or_and_right, exists_or]
  unfold problems
  rw [List.append_assoc, List.mem_append, List.mem_append (s := c.componentProblems c.renderer),
    hcomponents, ← or_assoc]
  refine or_congr_left ?_
  cases c.decimal <;> simp [mem_problemIf_iff]

/-- What a column has wrong among the others: its filter reads the field of none of them. -/
lemma mem_filterProblems_iff : p ∈ c.filterProblems names
    ↔ ∃ rangeField, c.filter = some (.dateRange (some rangeField)) ∧ rangeField ∉ names
      ∧ p = .unknownRangeField c.field rangeField := by
  unfold filterProblems
  split
  · rename_i rangeField hfilter
    simp [hfilter, mem_problemIf_iff]
  · rename_i hfilter
    simp only [List.not_mem_nil, false_iff, not_exists, not_and]
    exact fun rangeField hsome => absurd hsome (hfilter rangeField)

lemma filterProblems_congr {others : List String} (h : ∀ field, field ∈ others ↔ field ∈ names) :
    c.filterProblems others = c.filterProblems names := by
  unfold filterProblems
  split
  · rename_i rangeField _
    simp only [h]
  · rfl

end Column

/-! ## Problems of a grid -/

namespace Grid

variable {g g' : Grid}

/-- The fields of the columns in order. -/
def fields (g : Grid) : List String := g.columns.map (·.field)

/-- A grid has a problem. -/
inductive HasProblem (g : Grid) : Problem → Prop
  /-- The name of the grid is blank. -/
  | gridUnnamed (h : White g.name.toList) : HasProblem g .gridUnnamed
  /-- There is no column. -/
  | noColumns (h : g.columns = []) : HasProblem g .noColumns
  /-- The field of a column is empty. -/
  | emptyField {c : Column} (hc : c ∈ g.columns) (h : c.field = "") : HasProblem g .emptyField
  /-- More than one column has the field. -/
  | duplicateField {field : String} (h : 2 ≤ g.fields.count field) :
    HasProblem g (.duplicateField field)
  /-- A column has more decimal places than count. -/
  | tooManyPlaces {c : Column} {s : DecimalSettings} (hc : c ∈ g.columns)
      (hs : c.decimal = some s) (h : maxDecimalPlaces < s.places.toNat) :
    HasProblem g (.tooManyPlaces c.field s.places)
  /-- The name of a component of a column is blank. -/
  | componentUnnamed {c : Column} {spec : ComponentSpec} (hc : c ∈ g.columns)
      (hspec : c.renderer = some spec ∨ c.editor = some spec)
      (h : White spec.componentName.toList) : HasProblem g (.componentUnnamed c.field)
  /-- The filter of a column reads a field of no column. -/
  | unknownRangeField {c : Column} {rangeField : String} (hc : c ∈ g.columns)
      (hfilter : c.filter = some (.dateRange (some rangeField))) (h : rangeField ∉ g.fields) :
    HasProblem g (.unknownRangeField c.field rangeField)

/-- A grid that can be shown as it is defined. -/
structure Valid (g : Grid) : Prop where
  /-- The name is not blank. -/
  named : ¬ White g.name.toList
  /-- There is a column. -/
  columns_ne_nil : g.columns ≠ []
  /-- Every column has a field. -/
  field_ne_empty : ∀ c ∈ g.columns, c.field ≠ ""
  /-- No two columns have one field. -/
  nodup_fields : g.fields.Nodup
  /-- All decimal places count. -/
  places_le : ∀ c ∈ g.columns, ∀ s, c.decimal = some s → s.places.toNat ≤ maxDecimalPlaces
  /-- Every component has a name. -/
  component_named : ∀ c ∈ g.columns, ∀ spec, c.renderer = some spec ∨ c.editor = some spec →
    ¬ White spec.componentName.toList
  /-- A filter reads the field of some column. -/
  rangeField_mem : ∀ c ∈ g.columns, ∀ rangeField,
    c.filter = some (.dateRange (some rangeField)) → ∃ other ∈ g.columns, other.field = rangeField

/-- The problems are those of the grid, the repeated fields, and what the columns have wrong by
themselves and among the others. -/
lemma problems_perm_parts (g : Grid) : g.problems.Perm
    (problemIf (Text.isBlank g.name.toList) .gridUnnamed ++ problemIf g.columns.isEmpty .noColumns
      ++ ((repeated g.fields).map .duplicateField ++ g.columns.flatMap (·.problems []))
      ++ g.columns.flatMap (·.filterProblems g.fields)) :=
  ((Column.problemsAfter_perm [] g.columns).append_left _).append_right _

/-- A grid is told exactly the problems that it has. -/
lemma mem_problems_iff : p ∈ g.problems ↔ g.HasProblem p := by
  rw [g.problems_perm_parts.mem_iff]
  simp only [List.mem_append, mem_problemIf_iff, Text.isBlank_iff, List.isEmpty_iff, List.mem_map,
    mem_repeated_iff, List.mem_flatMap, Column.mem_problems_iff, Column.mem_filterProblems_iff]
  constructor
  · rintro (((⟨h, rfl⟩ | ⟨h, rfl⟩) | ⟨field, h, rfl⟩ | ⟨c, hc, hown⟩)
      | ⟨c, hc, rangeField, hfilter, h, rfl⟩)
    · exact .gridUnnamed h
    · exact .noColumns h
    · exact .duplicateField h
    · rcases hown with ⟨h, rfl⟩ | ⟨s, hs, h, rfl⟩ | ⟨spec, hspec, h, rfl⟩
      · exact .emptyField hc h
      · exact .tooManyPlaces hc hs h
      · exact .componentUnnamed hc hspec h
    · exact .unknownRangeField hc hfilter h
  · intro h
    cases h with
    | gridUnnamed h => exact .inl (.inl (.inl ⟨h, rfl⟩))
    | noColumns h => exact .inl (.inl (.inr ⟨h, rfl⟩))
    | duplicateField h => exact .inl (.inr (.inl ⟨_, h, rfl⟩))
    | emptyField hc h => exact .inl (.inr (.inr ⟨_, hc, .inl ⟨h, rfl⟩⟩))
    | tooManyPlaces hc hs h => exact .inl (.inr (.inr ⟨_, hc, .inr (.inl ⟨_, hs, h, rfl⟩)⟩))
    | componentUnnamed hc hspec h =>
      exact .inl (.inr (.inr ⟨_, hc, .inr (.inr ⟨_, hspec, h, rfl⟩)⟩))
    | unknownRangeField hc hfilter h => exact .inr ⟨_, hc, _, hfilter, h, rfl⟩

/-- A valid grid is one without a problem. -/
lemma valid_iff_forall_not : g.Valid ↔ ∀ p, ¬ g.HasProblem p := by
  constructor
  · intro hvalid p h
    cases h with
    | gridUnnamed h => exact hvalid.named h
    | noColumns h => exact hvalid.columns_ne_nil h
    | emptyField hc h => exact hvalid.field_ne_empty _ hc h
    | duplicateField h =>
      have hone := List.nodup_iff_count_le_one.1 hvalid.nodup_fields
      exact Nat.not_lt.2 (hone _) h
    | tooManyPlaces hc hs h => exact Nat.not_lt.2 (hvalid.places_le _ hc _ hs) h
    | componentUnnamed hc hspec h => exact hvalid.component_named _ hc _ hspec h
    | unknownRangeField hc hfilter h =>
      obtain ⟨other, hother, hfield⟩ := hvalid.rangeField_mem _ hc _ hfilter
      exact h (List.mem_map.2 ⟨other, hother, hfield⟩)
  · intro hnone
    refine ⟨fun h => hnone _ (.gridUnnamed h), fun h => hnone _ (.noColumns h),
      fun c hc h => hnone _ (.emptyField hc h), ?_,
      fun c hc s hs => Nat.not_lt.1 fun h => hnone _ (.tooManyPlaces hc hs h),
      fun c hc spec hspec h => hnone _ (.componentUnnamed hc hspec h), ?_⟩
    · refine List.nodup_iff_count_le_one.2 fun field => ?_
      have hcount := mt HasProblem.duplicateField (hnone (.duplicateField field))
      omega
    · intro c hc rangeField hfilter
      by_contra h
      exact hnone _ (.unknownRangeField hc hfilter (mt List.mem_map.1 h))

lemma problems_eq_nil_iff : g.problems = [] ↔ g.Valid := by
  rw [valid_iff_forall_not, List.eq_nil_iff_forall_not_mem]
  simp only [mem_problems_iff]

/-- Permuted columns have permuted problems. -/
lemma problems_perm (hname : g'.name = g.name) (hcolumns : g'.columns.Perm g.columns) :
    g'.problems.Perm g.problems := by
  have hfields : g'.fields.Perm g.fields := hcolumns.map _
  have hempty : g'.columns.isEmpty = g.columns.isEmpty := hcolumns.isEmpty_eq
  have hfilters : (fun c : Column => c.filterProblems g'.fields)
      = fun c => c.filterProblems g.fields :=
    funext fun c => Column.filterProblems_congr fun _ => hfields.mem_iff
  refine g'.problems_perm_parts.trans (.trans ?_ g.problems_perm_parts.symm)
  rw [hname, hempty, hfilters]
  refine .append (.append_left _ (.append ?_ ?_)) ?_
  · exact (repeated_perm hfields).map _
  · exact hcolumns.flatMap_right _
  · exact hcolumns.flatMap_right _

end Grid

/-! ## Repeated fields in texts -/

namespace Problem

/-- The first letter of the text of a problem. -/
def initial : Problem → Char
  | gridUnnamed | noColumns => 'G'
  | duplicateField _ => 'D'
  | emptyField | tooManyPlaces _ _ | componentUnnamed _ | unknownRangeField _ _ => 'C'

/-- The field that a problem tells to be repeated. -/
def repeatedField? : Problem → Option String
  | duplicateField field => some field
  | _ => none

/-- Whether a text starts with the words for a repeated field. -/
def startsAsRepeated (text : String) : Bool :=
  "Duplicate column field: ".toList.isPrefixOf text.toList

lemma head?_append_of_head? {s t : String} {letter : Char} (h : s.toList.head? = some letter) :
    (s ++ t).toList.head? = some letter := by
  rw [String.toList_append, List.head?_append, h]
  rfl

lemma head?_message (p : Problem) : p.message.toList.head? = some p.initial := by
  have hcolumn : "Column ".toList.head? = some 'C' := by decide +kernel
  cases p with
  | gridUnnamed => decide +kernel
  | noColumns => decide +kernel
  | emptyField => decide +kernel
  | duplicateField field =>
    show ("Duplicate column field: " ++ field).toList.head? = some 'D'
    exact head?_append_of_head? (by decide +kernel)
  | tooManyPlaces field places =>
    iterate 5 refine head?_append_of_head? ?_
    exact hcolumn
  | componentUnnamed field =>
    iterate 2 refine head?_append_of_head? ?_
    exact hcolumn
  | unknownRangeField field rangeField =>
    iterate 4 refine head?_append_of_head? ?_
    exact hcolumn

/-- The words for a repeated field stand in front of no other text, as no other text has their first
letter. -/
lemma startsAsRepeated_message (p : Problem) :
    startsAsRepeated p.message = p.repeatedField?.isSome := by
  rw [startsAsRepeated, Bool.eq_iff_iff, List.isPrefixOf_iff_prefix]
  constructor
  · rintro ⟨rest, hrest⟩
    have hletter : ("Duplicate column field: ".toList ++ rest).head? = some 'D' := by
      rw [List.head?_append]
      rfl
    have hinitial := Option.some.inj (p.head?_message.symm.trans (hrest ▸ hletter))
    cases p with
    | duplicateField field => rfl
    | _ => simp [initial] at hinitial
  · intro h
    cases p with
    | duplicateField field =>
      exact ⟨field.toList, (String.toList_append (s := "Duplicate column field: ")).symm⟩
    | _ => cases h

end Problem

namespace Grid

variable {g g' : Grid}

/-- The fields that are told to be repeated are the repeated ones. -/
lemma repeatedFields_perm (g : Grid) :
    (g.problems.filterMap Problem.repeatedField?).Perm (repeated g.fields) := by
  have hcolumns : (g.columns.flatMap (·.problems [])).filterMap Problem.repeatedField? = [] := by
    rw [List.filterMap_eq_nil_iff]
    intro p hp
    obtain ⟨c, -, hp⟩ := List.mem_flatMap.1 hp
    rcases Column.mem_problems_iff.1 hp with ⟨-, rfl⟩ | ⟨s, -, -, rfl⟩ | ⟨spec, -, -, rfl⟩ <;> rfl
  have hfilters : (g.columns.flatMap (·.filterProblems g.fields)).filterMap
      Problem.repeatedField? = [] := by
    rw [List.filterMap_eq_nil_iff]
    intro p hp
    obtain ⟨c, -, hp⟩ := List.mem_flatMap.1 hp
    obtain ⟨rangeField, -, -, rfl⟩ := Column.mem_filterProblems_iff.1 hp
    rfl
  have hgrid : ∀ {condition : Bool} {p : Problem}, p.repeatedField? = none →
      (problemIf condition p).filterMap Problem.repeatedField? = [] := by
    intro condition p hp
    cases condition <;> simp [problemIf, hp]
  have hrepeated : ((repeated g.fields).map Problem.duplicateField).filterMap
      Problem.repeatedField? = repeated g.fields := by
    rw [List.filterMap_map]
    exact List.filterMap_some
  refine (g.problems_perm_parts.filterMap _).trans ?_
  simp only [List.filterMap_append, hcolumns, hfilters, hrepeated, List.append_nil,
    hgrid (p := .gridUnnamed) rfl, hgrid (p := .noColumns) rfl, List.nil_append, List.Perm.refl]

/-- A grid is told a repeated field once for each column that has it after the first one. -/
lemma countP_repeated_add_card (g : Grid) :
    (g.problems.map Problem.message).countP Problem.startsAsRepeated + g.fields.toFinset.card
      = g.columns.length := by
  have htexts : (g.problems.map Problem.message).countP Problem.startsAsRepeated
      = (repeated g.fields).length := by
    rw [List.countP_map, ← g.repeatedFields_perm.length_eq, List.length_filterMap_eq_countP]
    exact List.countP_congr fun p _ => by rw [Function.comp_apply, p.startsAsRepeated_message]
  have hparts := (perm_repeated_append_dedup g.fields).length_eq
  rw [List.length_append, fields, List.length_map] at hparts
  rw [htexts, List.card_toFinset]
  exact hparts.symm

/-- The check of a grid tells exactly the problems that the grid has, and it tells none exactly when
the grid is valid.  A repeated field is told once for each column that has it after the first one,
so that the texts about repeated fields are as many as the columns without the distinct fields.  The
order of the columns has no influence on the problems but their order: permuted columns have
permuted problems, and as many texts of every kind. -/
theorem problems_are_those_of_the_grid (g : Grid) :
    (g.problems = [] ↔ g.Valid)
      ∧ (∀ p, p ∈ g.problems ↔ g.HasProblem p)
      ∧ (g.problems.map Problem.message).countP Problem.startsAsRepeated + g.fields.toFinset.card
        = g.columns.length
      ∧ ∀ g' : Grid, g'.name = g.name → g'.columns.Perm g.columns →
        (g'.problems = [] ↔ g.problems = [])
          ∧ g'.problems.Perm g.problems
          ∧ ∀ kind : String → Bool, (g'.problems.map Problem.message).countP kind
            = (g.problems.map Problem.message).countP kind := by
  refine ⟨problems_eq_nil_iff, fun p => mem_problems_iff, g.countP_repeated_add_card,
    fun g' hname hcolumns => ?_⟩
  have hperm := problems_perm hname hcolumns
  refine ⟨?_, hperm, fun kind => (hperm.map _).countP_eq kind⟩
  rw [← List.length_eq_zero_iff, hperm.length_eq, List.length_eq_zero_iff]

/-- A filter may read the field of a later column.  The field that two columns have is told once,
and it is told wherever the columns stand. -/
theorem problems_of_later_range_field_and_repetition :
    let dated : Column :=
      { Column.new "runtime" with filter := some (.dateRange (some "until")) }
    let g : Grid := ⟨"orders", "", [dated, Column.new "until", Column.new "until"], .empty, [],
      ⟨false, false⟩⟩
    let g' : Grid := { g with columns := [Column.new "until", dated, Column.new "until"] }
    g'.name = g.name ∧ g'.columns.Perm g.columns ∧ g'.problems.Perm [.duplicateField "until"]
      ∧ ∀ kind : String → Bool, (g'.problems.map Problem.message).countP kind
        = (g.problems.map Problem.message).countP kind := by
  intro dated g g'
  have hcolumns : g'.columns.Perm g.columns := .swap _ _ _
  obtain ⟨-, hperm, hkinds⟩ := (problems_are_those_of_the_grid g).2.2.2 g' rfl hcolumns
  have hproblems : g.problems = [.duplicateField "until"] := by decide +kernel
  exact ⟨rfl, hcolumns, hproblems ▸ hperm, hkinds⟩

end Grid

end GridRules
