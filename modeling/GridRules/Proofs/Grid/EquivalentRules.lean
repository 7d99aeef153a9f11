import GridRules.Grid.Report
import GridRules.Proofs.Expression.Formula
import Mathlib.Data.List.Forall2

/-!
# Rules that say the same

Two grids are equivalent when they differ in the spelling of their rules only: where one computes a
truth value from a formula, the other computes it from an equivalent one.  Equivalent grids have the
same report and the same menu for every row (`Grid.Equivalent.report`, `Grid.Equivalent.menuFor`),
so a rule can be rewritten by the laws of propositional logic although its operators give operands
and not truth values.
-/

namespace GridRules

/-! ## Equivalent parts -/

/-- Two slots are the same, or they compute the truth of equivalent formulas. -/
inductive Slot.Equivalent : Slot Bool → Slot Bool → Prop
  /-- The same slot. -/
  | same (slot : Slot Bool) : Equivalent slot slot
  /-- The expressions of equivalent formulas. -/
  | formula {f g : Formula} (hf : f.WellFormed) (hg : g.WellFormed) (h : f.Equivalent g) :
      Equivalent (.computed f.toExpression) (.computed g.toExpression)

/-- Two lists of class rules give the same classes by equivalent slots. -/
def ClassRules.Equivalent (rules others : ClassRules) : Prop :=
  List.Forall₂ (fun rule other => rule.1 = other.1 ∧ rule.2.Equivalent other.2)
    rules.entries others.entries

/-- Two columns of one field have equivalent rules. -/
structure Column.Equivalent (c d : Column) : Prop where
  /-- The columns show one field. -/
  field : c.field = d.field
  /-- The cells of both may be edited for the same rows. -/
  editable : c.editable.Equivalent d.editable
  /-- The cells of both have the same classes. -/
  cellClassRules : c.cellClassRules.Equivalent d.cellClassRules

/-- Two entries of a menu are the same but for the rule that disables them. -/
inductive MenuEntry.Equivalent : MenuEntry → MenuEntry → Prop
  /-- The same entry of the grid itself. -/
  | builtIn (name : String) : Equivalent (.builtIn name) (.builtIn name)
  /-- The same item with an equivalent slot. -/
  | item (i : MenuItem) {disabled : Slot Bool} (h : i.disabled.Equivalent disabled) :
      Equivalent (.item i) (.item { i with disabled := disabled })

/-- Two grids have equivalent rules, for their cells, their rows and their menus. -/
structure Grid.Equivalent (g h : Grid) : Prop where
  /-- The columns are equivalent one by one. -/
  columns : List.Forall₂ Column.Equivalent g.columns h.columns
  /-- The rows have the same classes. -/
  rowClassRules : g.rowClassRules.Equivalent h.rowClassRules
  /-- The entries of the menus are equivalent one by one. -/
  contextMenu : List.Forall₂ MenuEntry.Equivalent g.contextMenu h.contextMenu

/-! ## Lists that agree item by item -/

lemma map_eq_of_forall₂ {α β γ : Type} {r : α → β → Prop} {f : α → γ} {g : β → γ}
    {as : List α} {bs : List β} (h : List.Forall₂ r as bs) (hr : ∀ a b, r a b → f a = g b) :
    as.map f = bs.map g := by
  induction h with
  | nil => rfl
  | cons hab _ ih => rw [List.map_cons, List.map_cons, hr _ _ hab, ih]

lemma map_filter_eq_of_forall₂ {α β γ : Type} {r : α → β → Prop} {p : α → Bool} {q : β → Bool}
    {f : α → γ} {g : β → γ} {as : List α} {bs : List β} (h : List.Forall₂ r as bs)
    (hr : ∀ a b, r a b → p a = q b ∧ f a = g b) :
    (as.filter p).map f = (bs.filter q).map g := by
  induction h with
  | nil => rfl
  | @cons a b as bs hab _ ih =>
    obtain ⟨hpq, hfg⟩ := hr a b hab
    rw [List.filter_cons, List.filter_cons, hpq]
    split
    · rw [List.map_cons, List.map_cons, hfg, ih]
    · exact ih

/-! ## Equivalent rules decide alike -/

variable (row : Row)

lemma Slot.resolveOr_computed (e : Expression) :
    (Slot.computed e : Slot Bool).resolveOr row false = e.isTrue row := by
  rw [resolveOr, resolve, Expression.isTrue, Expression.holds]
  cases e.evaluate row <;> rfl

lemma Slot.Equivalent.resolveOr {slot other : Slot Bool} (h : slot.Equivalent other) :
    slot.resolveOr row false = other.resolveOr row false := by
  cases h with
  | same => rfl
  | formula hf hg h =>
    rw [resolveOr_computed, resolveOr_computed, Expression.isTrue, Expression.isTrue,
      Formula.holds_eq_of_equivalent row hf hg h]

lemma ClassRules.Equivalent.applied {rules others : ClassRules} (h : rules.Equivalent others) :
    rules.applied row = others.applied row := by
  refine map_filter_eq_of_forall₂ h fun rule other hrule => ?_
  exact ⟨hrule.2.resolveOr row, hrule.1⟩

lemma Column.Equivalent.isEditable {c d : Column} (h : c.Equivalent d) :
    c.isEditable row = d.isEditable row := h.editable.resolveOr row

lemma Column.Equivalent.cellClasses {c d : Column} (h : c.Equivalent d) :
    c.cellClasses row = d.cellClasses row := h.cellClassRules.applied row

lemma MenuEntry.Equivalent.resolve {entry other : MenuEntry} (h : entry.Equivalent other) :
    entry.resolve row = other.resolve row := by
  cases h with
  | builtIn name => rfl
  | @item i disabled h =>
    let other : MenuItem := { i with disabled := disabled }
    have hdisabled : i.isDisabled row = other.isDisabled row := h.resolveOr row
    rw [MenuEntry.resolve, MenuEntry.resolve, hdisabled]

namespace Grid.Equivalent

variable {g h : Grid} (equivalent : g.Equivalent h)

include equivalent

lemma editableFields : g.editableFields row = h.editableFields row := by
  refine map_filter_eq_of_forall₂ equivalent.columns fun c d hcd => ?_
  exact ⟨hcd.isEditable row, hcd.field⟩

lemma cellClasses : (g.columns.map fun c => (c.field, c.cellClasses row))
    = h.columns.map fun c => (c.field, c.cellClasses row) := by
  refine map_eq_of_forall₂ equivalent.columns fun c d hcd => ?_
  rw [hcd.field, hcd.cellClasses row]

lemma rowClasses : g.rowClasses row = h.rowClasses row := equivalent.rowClassRules.applied row

lemma menuFor : g.menuFor row = h.menuFor row :=
  map_eq_of_forall₂ equivalent.contextMenu fun _ _ hentry => hentry.resolve row

theorem report (filter : Option DateFilter) : g.report row filter = h.report row filter := by
  rw [Grid.report, Grid.report, equivalent.editableFields, equivalent.cellClasses,
    equivalent.rowClasses, equivalent.menuFor]

end Grid.Equivalent

/-! ## The laws of propositional logic -/

/-- Conjunction, disjunction and negation compute propositional logic over truth.  For every formula
over expressions whose operators have as many operands as they take, its expression counts as true
on a row exactly when the formula is true of its atoms, each of which has the truth of its own value
on the row.  The value of the expression is a truth value or the value of an atom, which is null for
a missing field.  Grids that differ in the spelling of such formulas have the same report, with the
same editable cells, classes and disabled items, and the same menu, for every row. -/
theorem formulas_compute_propositional_logic :
    (∀ (f : Formula) (row : Row), f.WellFormed →
      (∀ e ∈ f.atoms, e.holds row = .ok (e.isTrue row))
        ∧ f.toExpression.holds row = .ok (f.value fun e => e.isTrue row)
        ∧ ∃ v, f.toExpression.evaluate row = .ok v
          ∧ ((∃ b, v = .bool b) ∨ ∃ e ∈ f.atoms, e.evaluate row = .ok v))
      ∧ (∀ (name : String) (row : Row), row.get? name = none →
        (Expression.field name).evaluate row = .ok .null)
      ∧ (∀ (f g : Formula) (row : Row), f.WellFormed → g.WellFormed → f.Equivalent g →
        f.toExpression.holds row = g.toExpression.holds row)
      ∧ ∀ (g h : Grid) (row : Row), g.Equivalent h →
        (∀ filter, g.report row filter = h.report row filter)
          ∧ g.menuFor row = h.menuFor row := by
  refine ⟨fun f row hf => ?_, fun name row hname => ?_,
    fun f g row hf hg h => Formula.holds_eq_of_equivalent row hf hg h,
    fun g h row equivalent => ⟨equivalent.report row, equivalent.menuFor row⟩⟩
  · have hatoms : ∀ e ∈ f.atoms, e.holds row = .ok (e.isTrue row) := by
      intro e he
      exact Expression.holds_of_wellFormed row (hf e he)
    exact ⟨hatoms, Formula.holds_toExpression row hf, Formula.exists_evaluate_toExpression row hf⟩
  · have hoperand : (Expression.field name).operandOn row = .ok none := congrArg Except.ok hname
    exact Expression.evaluate_of_operandOn hoperand

/-- De Morgan's law for a cell that may be edited unless its order is locked and has a note.  The
row has no note, so the disjunction ends with a truth value while the conjunction ends with nothing,
and the cell may be edited by either rule. -/
theorem report_of_de_morgan :
    let locked : Formula := .atom (.field "locked")
    let note : Formula := .atom (.field "note")
    let f : Formula := .not (.and locked note)
    let g : Formula := .or (.not locked) (.not note)
    let grid (e : Expression) : Grid :=
      ⟨"orders", "", [{ Column.new "amount" with editable := .computed e }], .empty, [],
        ⟨false, false⟩⟩
    let row := Row.empty.insert "locked" (.string "yes")
    (Expression.field "note").evaluate row = .ok .null
      ∧ f.toExpression.holds row = .ok true
      ∧ f.toExpression.holds row = g.toExpression.holds row
      ∧ (grid f.toExpression).report row none = (grid g.toExpression).report row none
      ∧ ((grid g.toExpression).report row none).editable = ["amount"] := by
  intro locked note f g grid row
  obtain ⟨truth, missing, laws, grids⟩ := formulas_compute_propositional_logic
  have hatoms : ∀ e ∈ [Expression.field "locked", .field "note"], e.WellFormed := by
    simp [Expression.WellFormed]
  have hf : f.WellFormed := hatoms
  have hg : g.WellFormed := hatoms
  have hfg : f.Equivalent g := by
    intro truth
    simp [f, g, Formula.value]
  have hgrid : (grid f.toExpression).Equivalent (grid g.toExpression) :=
    { columns := .cons ⟨rfl, .formula hf hg hfg, .nil⟩ .nil
      rowClassRules := .nil
      contextMenu := .nil }
  have htrue : (f.value fun e => e.isTrue row) = true := by decide
  have hholds : f.toExpression.holds row = .ok true := by rw [(truth f row hf).2.1, htrue]
  exact ⟨missing "note" row rfl, hholds, laws f g row hf hg hfg, (grids _ _ row hgrid).1 none, rfl⟩

end GridRules
