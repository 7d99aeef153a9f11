import GridRules.Expression.Basic
import GridRules.Proofs.Expression.Position

/-!
# The nodes of a tree

The nodes of an expression in pre-order, each with the steps that lead to it in the wire form
(`at?_of_mem_nodes`).  A node is mismatched when its operator takes another number of operands than
it has; `firstMismatch?` is the fault of the first such node, and it follows the tree: its equations
at a unary and at a binary operator are those of a recursion that looks at the node, then to the
left, then to the right.
-/

namespace GridRules.Expression

/-- A node of a tree: the part of the tree that starts there, with the steps that lead to it. -/
structure Node where
  /-- The steps in the wire form from the root of the tree. -/
  path : List Step
  /-- The part of the tree. -/
  tree : Expression

/-- A node seen from further up. -/
def Node.under (steps : List Step) (node : Node) : Node := ⟨steps ++ node.path, node.tree⟩

/-- The nodes of a tree in pre-order: the root, then those on the left, then those on the right. -/
def nodes : Expression → List Node
  | literal value => [⟨[], literal value⟩]
  | field name => [⟨[], field name⟩]
  | unary op e => ⟨[], unary op e⟩ :: e.nodes.map (.under [.body])
  | binary op l r =>
    ⟨[], binary op l r⟩ :: (l.nodes.map (.under [.body, .operand .left])
      ++ r.nodes.map (.under [.body, .operand .right]))

/-- The operator at the root has the wrong number of operands: the negation has two, or another
operator has one. -/
def Mismatched : Expression → Prop
  | literal _ => False
  | field _ => False
  | unary op _ => op ≠ .not
  | binary op _ _ => op = .not

/-- The path of a node leads to its wire form in the wire form of the tree. -/
lemma at?_of_mem_nodes {e : Expression} {node : Node} (h : node ∈ e.nodes) :
    e.toValue.at? node.path = some node.tree.toValue := by
  induction e generalizing node with
  | literal value =>
    obtain rfl := List.mem_singleton.1 h
    rfl
  | field name =>
    obtain rfl := List.mem_singleton.1 h
    rfl
  | unary op e ih =>
    rcases List.mem_cons.1 h with rfl | h
    · rfl
    · obtain ⟨node, hn, rfl⟩ := List.mem_map.1 h
      exact ih hn
  | binary op l r ihl ihr =>
    rcases List.mem_cons.1 h with rfl | h
    · rfl
    · rcases List.mem_append.1 h with h | h
      · obtain ⟨node, hn, rfl⟩ := List.mem_map.1 h
        exact ihl hn
      · obtain ⟨node, hn, rfl⟩ := List.mem_map.1 h
        exact ihr hn

/-! ## The first mismatched node -/

/-- What is wrong with a mismatched node. -/
def mismatch? : Expression → Option Cause
  | literal _ => none
  | field _ => none
  | unary op _ => if op.isUnary then none else some (.takesTwo op)
  | binary op _ _ => if op.isUnary then some (.takesOne op) else none

lemma mismatch?_eq_none_iff {e : Expression} : e.mismatch? = none ↔ ¬ e.Mismatched := by
  cases e with
  | literal value => exact ⟨fun _ => id, fun _ => rfl⟩
  | field name => exact ⟨fun _ => id, fun _ => rfl⟩
  | unary op e => cases op <;> simp [mismatch?, Mismatched, Operator.isUnary]
  | binary op l r => cases op <;> simp [mismatch?, Mismatched, Operator.isUnary]

lemma mismatch?_eq_some {e : Expression} {cause : Cause} (h : e.mismatch? = some cause) :
    e.Mismatched ∧ ∃ op, cause = .takesOne op ∨ cause = .takesTwo op := by
  have hm : e.Mismatched := by
    refine Classical.byContradiction fun hn => ?_
    rw [mismatch?_eq_none_iff.2 hn] at h
    cases h
  refine ⟨hm, ?_⟩
  cases e with
  | literal value => cases h
  | field name => cases h
  | unary op e =>
    rw [mismatch?] at h
    split at h
    · cases h
    · exact ⟨op, .inr (Option.some.inj h).symm⟩
  | binary op l r =>
    rw [mismatch?] at h
    split at h
    · exact ⟨op, .inl (Option.some.inj h).symm⟩
    · cases h

/-- The fault of a mismatched node. -/
def Node.fault? (node : Node) : Option Fault :=
  node.tree.mismatch?.map fun cause => ⟨cause, node.path⟩

/-- The fault of the first mismatched node. -/
def firstMismatch? (e : Expression) : Option Fault := e.nodes.findSome? Node.fault?

lemma Node.fault?_eq_none_iff {node : Node} : node.fault? = none ↔ ¬ node.tree.Mismatched := by
  rw [fault?, Option.map_eq_none_iff, mismatch?_eq_none_iff]

/-- The fault of a node is one of its form, and the node is mismatched. -/
lemma Node.fault?_eq_some {node : Node} {fault : Fault} (h : node.fault? = some fault) :
    node.tree.Mismatched ∧ node.path = fault.path
      ∧ ∃ detail, fault.report = .malformed detail (pathText fault.path) := by
  obtain ⟨cause, hcause, rfl⟩ := Option.map_eq_some_iff.1 h
  obtain ⟨hm, op, rfl | rfl⟩ := mismatch?_eq_some hcause
  · exact ⟨hm, rfl, _, rfl⟩
  · exact ⟨hm, rfl, _, rfl⟩

lemma findSome?_under (steps : List Step) (nodes : List Node) :
    (nodes.map (.under steps)).findSome? Node.fault?
      = (nodes.findSome? Node.fault?).map (.under steps) := by
  induction nodes with
  | nil => rfl
  | cons node rest ih =>
    rw [List.map_cons, List.findSome?_cons, List.findSome?_cons, ih]
    have hnode : (node.under steps).fault? = node.fault?.map (.under steps) := by
      rw [Node.fault?, Node.fault?, Option.map_map]
      rfl
    rw [hnode]
    cases node.fault? <;> rfl

lemma firstMismatch?_unary (op : Operator) (e : Expression) :
    (unary op e).firstMismatch?
      = if op.isUnary then e.firstMismatch?.map (.under [.body])
        else some (Cause.takesTwo op).here := by
  rw [firstMismatch?, nodes, List.findSome?_cons, findSome?_under, firstMismatch?]
  by_cases hop : op.isUnary <;> simp [Node.fault?, mismatch?, hop, Cause.here]

lemma firstMismatch?_binary (op : Operator) (l r : Expression) :
    (binary op l r).firstMismatch?
      = if op.isUnary then some (Cause.takesOne op).here
        else (l.firstMismatch?.map (.under [.body, .operand .left])).or
          (r.firstMismatch?.map (.under [.body, .operand .right])) := by
  rw [firstMismatch?, nodes, List.findSome?_cons, List.findSome?_append, findSome?_under,
    findSome?_under, firstMismatch?, firstMismatch?]
  by_cases hop : op.isUnary <;> simp [Node.fault?, mismatch?, hop, Cause.here]

lemma exists_firstMismatch?_iff {e : Expression} :
    (∃ fault, e.firstMismatch? = some fault) ↔ ∃ node ∈ e.nodes, node.tree.Mismatched := by
  constructor
  · rintro ⟨fault, h⟩
    obtain ⟨node, hmem, hnode⟩ := List.exists_of_findSome?_eq_some h
    exact ⟨node, hmem, (Node.fault?_eq_some hnode).1⟩
  · rintro ⟨node, hmem, hm⟩
    cases h : e.firstMismatch? with
    | some fault => exact ⟨fault, rfl⟩
    | none =>
      have hnode := List.findSome?_eq_none_iff.1 h node hmem
      exact absurd hm (Node.fault?_eq_none_iff.1 hnode)

/-- No node is mismatched exactly when the tree is well formed. -/
lemma firstMismatch?_eq_none_iff {e : Expression} : e.firstMismatch? = none ↔ e.WellFormed := by
  induction e with
  | literal value => exact ⟨fun _ => trivial, fun _ => rfl⟩
  | field name => exact ⟨fun _ => trivial, fun _ => rfl⟩
  | unary op e ih =>
    rw [firstMismatch?_unary, WellFormed, ← ih]
    split
    · rename_i hop
      simp [hop]
    · rename_i hop
      simp [hop]
  | binary op l r ihl ihr =>
    rw [firstMismatch?_binary, WellFormed, ← ihl, ← ihr]
    split
    · rename_i hop
      simp [hop]
    · rename_i hop
      simp [hop]

end GridRules.Expression
