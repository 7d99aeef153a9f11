import GridRules.Expression.Evaluate
import GridRules.Proofs.Expression.Node
import Mathlib.Data.List.Basic
import Mathlib.Data.List.Induction

/-!
# The fields of an expression

An expression lists each field that it references once, in the order in which the references first
appear (`nodup_fields`, `mem_fields_iff`, `idxOf_fields_lt_iff`), and two rows that agree on these
fields give it the same value (`evaluate_congr`).

The list is built with an accumulator; `collectFields_eq_foldl` turns that into a fold over the
references from left to right, and what one more reference does to the list is said once, by the
lemmas on `addNew`.
-/

namespace GridRules.Expression

/-- The field that a node references, if it is a field. -/
def fieldName? : Expression → Option String
  | field name => some name
  | _ => none

/-- The references to fields in a tree from left to right, with repetitions. -/
def references (e : Expression) : List String :=
  e.nodes.filterMap fun node => node.tree.fieldName?

lemma filterMap_under (steps : List Step) (nodes : List Node) :
    ((nodes.map (Node.under steps)).filterMap fun node => node.tree.fieldName?)
      = nodes.filterMap fun node => node.tree.fieldName? := by
  rw [List.filterMap_map]
  rfl

@[simp] lemma references_literal (value : Value) : (literal value).references = [] := rfl

@[simp] lemma references_field (name : String) : (field name).references = [name] := rfl

@[simp] lemma references_unary (op : Operator) (e : Expression) :
    (unary op e).references = e.references := by
  rw [references, nodes, List.filterMap_cons_none rfl, filterMap_under, references]

@[simp] lemma references_binary (op : Operator) (l r : Expression) :
    (binary op l r).references = l.references ++ r.references := by
  rw [references, nodes, List.filterMap_cons_none rfl, List.filterMap_append, filterMap_under,
    filterMap_under, references, references]

lemma mem_references_iff {e : Expression} {name : String} :
    name ∈ e.references ↔ ∃ node ∈ e.nodes, node.tree = .field name := by
  rw [references, List.mem_filterMap]
  refine exists_congr fun node => and_congr_right fun _ => ?_
  cases node.tree with
  | field other => simp [fieldName?]
  | _ => simp [fieldName?]

/-! ## Listing each name once -/

lemma mem_addNew {names : List String} {name other : String} :
    other ∈ addNew names name ↔ other ∈ names ∨ other = name := by
  unfold addNew
  split
  · rename_i h
    constructor
    · exact .inl
    · rintro (h' | rfl)
      · exact h'
      · exact h
  · rw [List.mem_append, List.mem_singleton]

lemma nodup_addNew {names : List String} (h : names.Nodup) (name : String) :
    (addNew names name).Nodup := by
  unfold addNew
  split
  · exact h
  · rename_i hn
    refine List.nodup_append.2 ⟨h, by simp, ?_⟩
    rintro a ha b hb rfl
    obtain rfl := List.mem_singleton.1 hb
    exact hn ha

/-- A name that is there already adds nothing. -/
lemma addNew_of_mem {names : List String} {name : String} (h : name ∈ names) :
    addNew names name = names := if_pos h

lemma addNew_of_not_mem {names : List String} {name : String} (h : name ∉ names) :
    addNew names name = names ++ [name] := if_neg h

lemma foldl_addNew_concat (names : List String) (last : String) :
    (names ++ [last]).foldl addNew [] = addNew (names.foldl addNew []) last := by
  rw [List.foldl_append, List.foldl_cons, List.foldl_nil]

lemma mem_foldl_addNew {names : List String} {name : String} :
    name ∈ names.foldl addNew [] ↔ name ∈ names := by
  induction names using List.reverseRecOn with
  | nil => exact Iff.rfl
  | append_singleton names last ih =>
    rw [foldl_addNew_concat, mem_addNew, ih, List.mem_append, List.mem_singleton]

lemma nodup_foldl_addNew (names : List String) : (names.foldl addNew []).Nodup := by
  induction names using List.reverseRecOn with
  | nil => exact List.nodup_nil
  | append_singleton names last ih =>
    rw [foldl_addNew_concat]
    exact nodup_addNew ih last

lemma idxOf_concat_self {names : List String} {last : String} (h : last ∉ names) :
    (names ++ [last]).idxOf last = names.length := by
  rw [List.idxOf_append_of_notMem h, List.idxOf_cons_self, Nat.add_zero]

/-- Listing each name once keeps the order in which the names first appear. -/
lemma idxOf_foldl_addNew_lt_iff {names : List String} {a b : String} (ha : a ∈ names)
    (hb : b ∈ names) : (names.foldl addNew []).idxOf a < (names.foldl addNew []).idxOf b
      ↔ names.idxOf a < names.idxOf b := by
  induction names using List.reverseRecOn with
  | nil => cases ha
  | append_singleton names last ih =>
    rw [foldl_addNew_concat]
    by_cases hlast : last ∈ names
    · -- another reference to a name: neither list changes where names first appear
      have hmem : ∀ x ∈ names ++ [last], x ∈ names := by
        intro x hx
        rcases List.mem_append.1 hx with hx | hx
        · exact hx
        · exact List.mem_singleton.1 hx ▸ hlast
      rw [addNew_of_mem (mem_foldl_addNew.2 hlast), List.idxOf_append_of_mem (hmem a ha),
        List.idxOf_append_of_mem (hmem b hb)]
      exact ih (hmem a ha) (hmem b hb)
    · -- a new name: it comes last in both lists
      have hnew : last ∉ names.foldl addNew [] := mt mem_foldl_addNew.1 hlast
      rw [addNew_of_not_mem hnew]
      rcases List.mem_append.1 ha with hold | hold <;>
        rcases List.mem_append.1 hb with hold' | hold'
      · -- both names are old
        rw [List.idxOf_append_of_mem hold, List.idxOf_append_of_mem hold',
          List.idxOf_append_of_mem (mem_foldl_addNew.2 hold),
          List.idxOf_append_of_mem (mem_foldl_addNew.2 hold')]
        exact ih hold hold'
      · -- only `b` is new, and in both lists it is past every old name
        obtain rfl := List.mem_singleton.1 hold'
        have hfield := mem_foldl_addNew.2 hold
        rw [List.idxOf_append_of_mem hold, List.idxOf_append_of_mem hfield,
          idxOf_concat_self hlast, idxOf_concat_self hnew]
        exact iff_of_true (List.idxOf_lt_length_of_mem hfield) (List.idxOf_lt_length_of_mem hold)
      · -- only `a` is new
        obtain rfl := List.mem_singleton.1 hold
        have hfield := mem_foldl_addNew.2 hold'
        rw [List.idxOf_append_of_mem hold', List.idxOf_append_of_mem hfield,
          idxOf_concat_self hlast, idxOf_concat_self hnew]
        exact iff_of_false (Nat.lt_asymm (List.idxOf_lt_length_of_mem hfield))
          (Nat.lt_asymm (List.idxOf_lt_length_of_mem hold'))
      · -- both are the new name
        obtain rfl := List.mem_singleton.1 hold
        obtain rfl := List.mem_singleton.1 hold'
        exact iff_of_false (Nat.lt_irrefl _) (Nat.lt_irrefl _)

/-! ## The fields of a tree -/

lemma collectFields_eq_foldl (e : Expression) (names : List String) :
    e.collectFields names = e.references.foldl addNew names := by
  induction e generalizing names with
  | literal value => rfl
  | field name => rfl
  | unary op e ih => rw [collectFields, references_unary, ih]
  | binary op l r ihl ihr =>
    rw [collectFields, references_binary, List.foldl_append, ihl, ihr]

lemma fields_eq_foldl (e : Expression) : e.fields = e.references.foldl addNew [] :=
  collectFields_eq_foldl e []

theorem mem_fields_iff {e : Expression} {name : String} :
    name ∈ e.fields ↔ name ∈ e.references := by
  rw [fields_eq_foldl, mem_foldl_addNew]

theorem nodup_fields (e : Expression) : e.fields.Nodup := by
  rw [fields_eq_foldl]
  exact nodup_foldl_addNew e.references

theorem idxOf_fields_lt_iff {e : Expression} {a b : String} (ha : a ∈ e.fields)
    (hb : b ∈ e.fields) :
    e.fields.idxOf a < e.fields.idxOf b ↔ e.references.idxOf a < e.references.idxOf b := by
  rw [fields_eq_foldl]
  exact idxOf_foldl_addNew_lt_iff (mem_fields_iff.1 ha) (mem_fields_iff.1 hb)

/-! ## Evaluation reads the listed fields only -/

/-- Two rows give the same answer for each of some names: the same value, or none. -/
def AgreeOn (names : List String) (row other : Row) : Prop :=
  ∀ name ∈ names, row.get? name = other.get? name

lemma operandOn_congr {e : Expression} {row other : Row} (h : AgreeOn e.references row other) :
    e.operandOn row = e.operandOn other := by
  induction e with
  | literal value => rfl
  | field name => exact congrArg Except.ok (h name List.mem_cons_self)
  | unary op e ih =>
    rw [references_unary] at h
    rw [operandOn, operandOn, ih h]
  | binary op l r ihl ihr =>
    rw [references_binary] at h
    have hl : AgreeOn l.references row other := fun name hn => h name (List.mem_append_left _ hn)
    have hr : AgreeOn r.references row other := fun name hn => h name (List.mem_append_right _ hn)
    rw [operandOn, operandOn, ihl hl, ihr hr]

theorem evaluate_congr {e : Expression} {row other : Row} (h : AgreeOn e.fields row other) :
    e.evaluate row = e.evaluate other := by
  have hrefs : AgreeOn e.references row other := fun name hn => h name (mem_fields_iff.2 hn)
  rw [evaluate, evaluate, operandOn_congr hrefs]

end GridRules.Expression
