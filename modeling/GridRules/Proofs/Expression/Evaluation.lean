import GridRules.Expression.Evaluate
import GridRules.Proofs.Expression.Node
import GridRules.Proofs.Expression.Reading

/-!
# Faults of evaluation

Evaluation fails on a tree exactly when some node of it is mismatched, whatever the row holds and on
whichever side of a conjunction or a disjunction the node stands, because both operands are always
evaluated.  The fault is that of the first mismatched node in pre-order, so it is the same for every
row (`evaluate_eq_error_iff`).  The reader builds no mismatched node, hence the evaluation of a wire
form fails only where reading it fails.
-/

namespace GridRules.Expression

/-- A tree without mismatched nodes has an operand on every row. -/
lemma operandOn_of_wellFormed (row : Row) {e : Expression} (h : e.WellFormed) :
    ∃ operand, e.operandOn row = .ok operand := by
  induction e with
  | literal value => exact ⟨_, rfl⟩
  | field name => exact ⟨_, rfl⟩
  | unary op e ih =>
    obtain ⟨operand, ho⟩ := ih h.2
    rw [operandOn, if_pos h.1, ho]
    exact ⟨_, rfl⟩
  | binary op l r ihl ihr =>
    obtain ⟨a, ha⟩ := ihl h.2.1
    obtain ⟨b, hb⟩ := ihr h.2.2
    rw [operandOn, if_neg (by simp [h.1]), ha, hb]
    exact ⟨_, rfl⟩

/-- The first mismatched node of a tree is its fault on every row. -/
lemma operandOn_of_firstMismatch? (row : Row) {e : Expression} {fault : Fault}
    (h : e.firstMismatch? = some fault) : e.operandOn row = .error fault := by
  induction e generalizing fault with
  | literal value => cases h
  | field name => cases h
  | unary op e ih =>
    rw [firstMismatch?_unary] at h
    rw [operandOn]
    split at h
    · rename_i hop
      obtain ⟨fault, hf, rfl⟩ := Option.map_eq_some_iff.1 h
      rw [if_pos hop, ih hf]
      rfl
    · rename_i hop
      rw [if_neg hop, Option.some.inj h]
  | binary op l r ihl ihr =>
    rw [firstMismatch?_binary] at h
    rw [operandOn]
    split at h
    · rename_i hop
      rw [if_pos hop, Option.some.inj h]
    · rename_i hop
      rw [if_neg hop]
      -- the right operand is reached only when the left one has no mismatched node
      rcases Option.or_eq_some_iff.1 h with hl | ⟨hl, hr⟩
      · obtain ⟨fault, hf, rfl⟩ := Option.map_eq_some_iff.1 hl
        rw [ihl hf]
        rfl
      · obtain ⟨fault, hf, rfl⟩ := Option.map_eq_some_iff.1 hr
        have hleft : l.WellFormed := firstMismatch?_eq_none_iff.1 (Option.map_eq_none_iff.1 hl)
        obtain ⟨a, ha⟩ := operandOn_of_wellFormed row hleft
        rw [ha, ihr hf]
        rfl

lemma evaluate_of_wellFormed (row : Row) {e : Expression} (h : e.WellFormed) :
    ∃ v, e.evaluate row = .ok v := by
  obtain ⟨operand, ho⟩ := operandOn_of_wellFormed row h
  rw [evaluate, ho]
  exact ⟨_, rfl⟩

theorem evaluate_eq_error_iff {row : Row} {e : Expression} {fault : Fault} :
    e.evaluate row = .error fault ↔ e.firstMismatch? = some fault := by
  constructor
  · intro h
    cases hf : e.firstMismatch? with
    | none =>
      obtain ⟨v, hv⟩ := evaluate_of_wellFormed row (firstMismatch?_eq_none_iff.1 hf)
      rw [hv] at h
      cases h
    | some fault' =>
      rw [evaluate, operandOn_of_firstMismatch? row hf] at h
      rw [Except.error.inj h]
  · intro h
    rw [evaluate, operandOn_of_firstMismatch? row h]
    rfl

/-- Evaluation fails exactly on the trees with a mismatched node.  The error is then one of the form
of a node, it is the same for every row, and its path is that of the first mismatched node in
pre-order, in the wire form of the tree.  A tree that was read never fails, so a wire form fails to
be evaluated exactly when it fails to be read, and with the same fault. -/
theorem evaluate_fails_iff_mismatched (e : Expression) (row : Row) :
    ((∃ fault, e.evaluate row = .error fault) ↔ ∃ node ∈ e.nodes, node.tree.Mismatched)
      ∧ (∀ fault, e.evaluate row = .error fault →
        (∃ detail, fault.report = .malformed detail
          ("$" ++ String.join (fault.path.map fun step => "." ++ step.name)))
        ∧ (∀ other, e.evaluate other = .error fault)
        ∧ ∃ before node after, e.nodes = before ++ node :: after
          ∧ (∀ earlier ∈ before, ¬ earlier.tree.Mismatched) ∧ node.tree.Mismatched
          ∧ node.path = fault.path ∧ e.toValue.at? fault.path = some node.tree.toValue)
      ∧ (∀ v a, parse v = .ok a → ∃ w, a.evaluate row = .ok w)
      ∧ ∀ v fault, evaluateWire row v = .error fault ↔ parse v = .error fault := by
  refine ⟨?_, fun fault h => ?_, fun v a hv => ?_, fun v fault => ?_⟩
  · rw [← exists_firstMismatch?_iff]
    exact exists_congr fun fault => evaluate_eq_error_iff
  · rw [evaluate_eq_error_iff] at h
    obtain ⟨before, node, after, hnodes, hnode, hbefore⟩ := List.findSome?_eq_some_iff.1 h
    obtain ⟨hm, hpath, hreport⟩ := Node.fault?_eq_some hnode
    rw [pathText_eq_join] at hreport
    have hmem : node ∈ e.nodes := hnodes ▸ List.mem_append_right _ List.mem_cons_self
    refine ⟨hreport, fun other => evaluate_eq_error_iff.2 h, before, node, after, hnodes,
      fun earlier he => Node.fault?_eq_none_iff.1 (hbefore earlier he), hm, hpath, ?_⟩
    rw [← hpath]
    exact at?_of_mem_nodes hmem
  · exact evaluate_of_wellFormed row (wellFormed_of_parse hv)
  · rw [evaluateWire]
    cases hv : parse v with
    | error fault' => simp only [Except.error.injEq]
    | ok a =>
      obtain ⟨w, hw⟩ := evaluate_of_wellFormed row (wellFormed_of_parse hv)
      simp [hw]

/-- A mismatched node on the right of a conjunction fails on every row, also where the left side is
false already. -/
theorem evaluate_fails_right_of_false :
    (binary .and (literal (.bool false)) (unary .equals (field "name"))).evaluate .empty
        = .error ⟨.takesTwo .equals, [.body, .operand .right]⟩
      ∧ ∀ row, (binary .and (literal (.bool false)) (unary .equals (field "name"))).evaluate row
        = .error ⟨.takesTwo .equals, [.body, .operand .right]⟩ := by
  have h : (binary .and (literal (.bool false)) (unary .equals (field "name"))).evaluate .empty
      = .error ⟨.takesTwo .equals, [.body, .operand .right]⟩ := rfl
  exact ⟨h, ((evaluate_fails_iff_mismatched _ .empty).2.1 _ h).2.1⟩

end GridRules.Expression
