import GridRules.Proofs.Expression.Reading

/-!
# The first fault

Where the fault of a value lies in it.  The path of a fault leads to a part of the value that is
itself wrong, the operands to the left of the path are in order, and what stands to the right of it
does not matter: it may be replaced or removed without changing the answer.

All three are inductions on the derivation of the fault (`Faulty`).  A path is taken apart at a node
`above`; the paths of faults start at nodes, so below a node the next step always goes into a body
(`Faulty.path_eq`), and this rules out the cases in which `above` would end inside a body.
-/

namespace GridRules.Expression

/-- The value at the end of a path is the body of an operator with two operands. -/
def IsBinaryBody (v : Value) (path : List Step) (body : Value) : Prop :=
  ∃ above fields symbol, path = above ++ [.body] ∧ v.at? above = some (.object fields)
    ∧ OperatorNode fields symbol body ∧ symbol ∈ binarySymbols

section Node

variable {fields operands : List (String × Value)} {symbol : String} {body v : Value}

lemma OperatorNode.at?_body (node : OperatorNode fields symbol body) (rest : List Step) :
    (Value.object fields).at? (.body :: rest) = body.at? rest := by
  rw [Value.at?_cons, Value.field?_object, Step.name, node.body, Option.bind_some]

lemma OperatorNode.at?_operand (node : OperatorNode fields symbol (.object operands))
    (side : Side) (h : operands.lookup side.name = some v) (rest : List Step) :
    (Value.object fields).at? (.body :: .operand side :: rest) = v.at? rest := by
  rw [node.at?_body, Value.at?_cons, Value.field?_object, Step.name, h, Option.bind_some]

lemma OperatorNode.editAt_body (node : OperatorNode fields symbol body) (edit : Value → Value)
    (rest : List Step) : (Value.object fields).editAt edit (.body :: rest)
      = .object (insertEntry "body" (body.editAt edit rest) fields) :=
  Value.editAt_cons node.body

lemma OperatorNode.editAt_operand (node : OperatorNode fields symbol (.object operands))
    (side : Side) (h : operands.lookup side.name = some v) (edit : Value → Value)
    (rest : List Step) :
    (Value.object fields).editAt edit (.body :: .operand side :: rest)
      = .object (insertEntry "body"
          (.object (insertEntry side.name (v.editAt edit rest) operands)) fields) := by
  rw [node.editAt_body]
  exact congrArg (fun w => Value.object (insertEntry "body" w fields)) (Value.editAt_cons h)

end Node

/-! ## Where the path leads -/

/-- The path of a fault leads to a part that is wrong itself or as the body of an operator. -/
def Located (v : Value) (fault : Fault) : Prop :=
  ∃ s, v.at? fault.path = some s
    ∧ (RootFault s fault.cause ∨ IsBinaryBody v fault.path s ∧ BodyFault s fault.cause)

/-- A fault that is located in a part is located in the whole. -/
lemma Located.under {v w : Value} {fault : Fault} {p : List Step}
    (hp : ∀ rest, v.at? (p ++ rest) = w.at? rest) (h : Located w fault) :
    Located v (fault.under p) := by
  obtain ⟨s, hs, hfault⟩ := h
  refine ⟨s, (hp fault.path).trans hs, ?_⟩
  rcases hfault with hroot | ⟨⟨above, fields, symbol, hpath, ha, node, known⟩, hbody⟩
  · exact .inl hroot
  · -- the node above the body is reached through `p` as well
    have hpath' : (fault.under p).path = (p ++ above) ++ [.body] := by
      rw [Fault.under, hpath, List.append_assoc]
    exact .inr ⟨⟨p ++ above, fields, symbol, hpath', (hp above).trans ha, node, known⟩, hbody⟩

lemma Faulty.located {v : Value} {fault : Fault} (h : Faulty v fault) : Located v fault := by
  induction h with
  | @root v cause h => exact ⟨v, rfl, .inl h⟩
  | @body fields symbol body cause node known h =>
    exact ⟨body, node.at?_body [], .inr ⟨⟨[], fields, symbol, rfl, rfl, node, known⟩, h⟩⟩
  | negation node _ ih => exact ih.under node.at?_body
  | left node known hl _ ih => exact ih.under (node.at?_operand .left hl)
  | right node known hl _ hr _ ih => exact ih.under (node.at?_operand .right hr)

lemma Faulty.path_eq {v : Value} {fault : Fault} (h : Faulty v fault) :
    fault.path = [] ∨ ∃ rest, fault.path = .body :: rest := by
  cases h with
  | root h => exact .inl rfl
  | body node known h => exact .inr ⟨[], rfl⟩
  | negation node h => exact .inr ⟨_, rfl⟩
  | left node known hl h => exact .inr ⟨_, rfl⟩
  | right node known hl left hr h => exact .inr ⟨_, rfl⟩

/-! ## The nodes above a fault -/

/-- Below a negation the path goes on at a node. -/
lemma above_of_negation {above rest : List Step} {side : Side}
    (hrest : rest = [] ∨ ∃ r, rest = .body :: r)
    (h : above ++ [.body, .operand side] <+: .body :: rest) :
    ∃ above', above = .body :: above' ∧ above' ++ [.body, .operand side] <+: rest := by
  cases above with
  | nil =>
    -- the path would go from the body into an operand, but the body is a node
    have h' : [.operand side] <+: rest := (List.cons_prefix_cons.1 h).2
    rcases hrest with rfl | ⟨r, rfl⟩
    · exact absurd (List.prefix_nil.1 h') (by simp)
    · exact absurd (List.cons_prefix_cons.1 h').1 (by simp)
  | cons step above' =>
    obtain ⟨rfl, h'⟩ := List.cons_prefix_cons.1 h
    exact ⟨above', rfl, h'⟩

/-- The path into an operand leaves the node itself, or it goes on at the node of the operand. -/
lemma above_of_operand {above rest : List Step} {side side' : Side}
    (h : above ++ [.body, .operand side] <+: .body :: .operand side' :: rest) :
    above = [] ∧ side = side'
      ∨ ∃ above', above = .body :: .operand side' :: above'
        ∧ above' ++ [.body, .operand side] <+: rest := by
  rcases above with _ | ⟨step, _ | ⟨step', above'⟩⟩
  · have h' := (List.cons_prefix_cons.1 (List.cons_prefix_cons.1 h).2).1
    exact .inl ⟨rfl, Step.operand.inj h'⟩
  · -- `above` would end inside the body
    have h' := (List.cons_prefix_cons.1 (List.cons_prefix_cons.1 h).2).1
    cases h'
  · obtain ⟨rfl, h'⟩ := List.cons_prefix_cons.1 h
    obtain ⟨rfl, h''⟩ := List.cons_prefix_cons.1 h'
    exact .inr ⟨above', rfl, h''⟩

/-- At every node whose right operand lies above the fault, the left operand is in order. -/
lemma Faulty.left_inLanguage {v : Value} {fault : Fault} (h : Faulty v fault) {above : List Step}
    (ha : above ++ [.body, .operand .right] <+: fault.path) :
    ∃ l, v.at? (above ++ [.body, .operand .left]) = some l ∧ InLanguage l := by
  induction h generalizing above with
  | root h => exact absurd (List.prefix_nil.1 ha) (by simp)
  | body node known h => exact absurd ha.length_le (by simp)
  | negation node h ih =>
    obtain ⟨above', rfl, ha'⟩ := above_of_negation h.path_eq ha
    rw [List.cons_append, node.at?_body]
    exact ih ha'
  | left node known hl h ih =>
    rcases above_of_operand ha with ⟨-, hside⟩ | ⟨above', rfl, ha'⟩
    · cases hside
    · rw [List.cons_append, List.cons_append, node.at?_operand .left hl]
      exact ih ha'
  | right node known hl left hr h ih =>
    rcases above_of_operand ha with ⟨rfl, -⟩ | ⟨above', rfl, ha'⟩
    · -- the node itself: its left operand was read before the right one
      exact ⟨_, node.at?_operand .left hl [], left⟩
    · rw [List.cons_append, List.cons_append, node.at?_operand .right hr]
      exact ih ha'

/-- At every node whose left operand lies above the fault, the right operand does not matter. -/
lemma Faulty.editAt_right {v : Value} {fault : Fault} (h : Faulty v fault) {above : List Step}
    (ha : above ++ [.body, .operand .left] <+: fault.path) (new : Option Value) :
    Faulty (v.editAt (Value.setField "right" new) (above ++ [.body])) fault := by
  induction h generalizing above with
  | root h => exact absurd (List.prefix_nil.1 ha) (by simp)
  | body node known h => exact absurd ha.length_le (by simp)
  | negation node h ih =>
    obtain ⟨above', rfl, ha'⟩ := above_of_negation h.path_eq ha
    rw [List.cons_append, node.editAt_body]
    exact .negation (node.insert_body _) (ih ha')
  | @left fields operands symbol l fault node known hl h ih =>
    rcases above_of_operand ha with ⟨rfl, -⟩ | ⟨above', rfl, ha'⟩
    · -- the node itself: the edit leaves its left operand as it is
      rw [List.nil_append, node.editAt_body, Value.editAt_nil]
      have hl' : ((Value.object operands).setField "right" new).field? "left" = some l := by
        rw [Value.field?_setField, if_neg (by decide), hl]
      exact .left (node.insert_body _) known hl' h
    · rw [List.cons_append, List.cons_append, node.editAt_operand .left hl]
      refine .left (node.insert_body _) known ?_ (ih ha')
      exact (lookup_insertEntry ..).trans (if_pos rfl)
  | right node known hl left hr h ih =>
    rcases above_of_operand ha with ⟨-, hside⟩ | ⟨above', rfl, ha'⟩
    · cases hside
    · rw [List.cons_append, List.cons_append, node.editAt_operand .right hr]
      refine .right (node.insert_body _) known ?_ left ?_ (ih ha')
      · rw [lookup_insertEntry, if_neg (by decide), hl]
      · exact (lookup_insertEntry ..).trans (if_pos rfl)

/-- The right operand of a node whose left operand is there can be set and removed. -/
lemma at?_editAt_right {v w : Value} {above : List Step}
    (h : v.at? (above ++ [.body, .operand .left]) = some w) (new : Option Value) :
    (v.editAt (Value.setField "right" new) (above ++ [.body])).at?
      (above ++ [.body, .operand .right]) = new := by
  have hsplit (side : Side) : above ++ [.body, .operand side]
      = (above ++ [.body]) ++ [.operand side] := by rw [List.append_assoc]; rfl
  rw [hsplit, Value.at?_append] at h
  obtain ⟨body, hb, hl⟩ := Option.bind_eq_some_iff.1 h
  rw [hsplit, Value.at?_append, Value.at?_editAt _ hb, Option.bind_some, Value.at?_cons]
  cases body with
  | object operands =>
    have hr : ((Value.object operands).setField "right" new).field? "right" = new := by
      rw [Value.field?_setField, if_pos rfl]
    rw [Step.name, Side.name, hr]
    cases new <;> rfl
  | _ => cases hl

/-! ## The reader -/

/-- The reader accepts the language and blames the first offender of any other value.  The path of
the fault leads to a part that is not in the language for a reason of its own, or that is the body
of an operator and as such no object or without an operand.  Wherever the path turns to the right,
the left operand is in the language; wherever it turns to the left, the right operand can be set to
anything or removed and the fault stays the same. -/
theorem parse_blames_first_fault (v : Value) :
    ((∃ e, parse v = .ok e) ↔ InLanguage v)
      ∧ ∀ fault, parse v = .error fault →
        fault.report.path = "$" ++ String.join (fault.path.map fun step => "." ++ step.name)
        ∧ (∃ s, v.at? fault.path = some s
          ∧ (¬ InLanguage s ∧ RootFault s fault.cause
            ∨ IsBinaryBody v fault.path s ∧ BodyFault s fault.cause))
        ∧ (∀ above, above ++ [.body, .operand .right] <+: fault.path →
          ∃ l, v.at? (above ++ [.body, .operand .left]) = some l ∧ InLanguage l)
        ∧ ∀ above, above ++ [.body, .operand .left] <+: fault.path → ∀ new,
          (v.editAt (Value.setField "right" new) (above ++ [.body])).at?
              (above ++ [.body, .operand .right]) = new
            ∧ parse (v.editAt (Value.setField "right" new) (above ++ [.body]))
              = .error fault := by
  refine ⟨inLanguage_iff.symm, fun fault hv => ?_⟩
  have h : Faulty v fault := faulty_iff.2 hv
  obtain ⟨s, hs, hfault⟩ := h.located
  refine ⟨?_, ⟨s, hs, ?_⟩, fun above ha => h.left_inLanguage ha, fun above ha new => ⟨?_, ?_⟩⟩
  · rw [fault.path_report, pathText_eq_join]
  · exact hfault.imp_left fun hroot => ⟨hroot.not_inLanguage, hroot⟩
  · obtain ⟨rest, hrest⟩ := ha
    rw [← hrest, Value.at?_append] at hs
    obtain ⟨l, hl, -⟩ := Option.bind_eq_some_iff.1 hs
    exact at?_editAt_right hl new
  · exact (h.editAt_right ha new).parse_eq

/-- A left operand of an unknown kind is blamed, whether there is a right operand or not. -/
theorem parse_blames_left_operand :
    ∃ v fault, parse v = .error fault ∧ fault.report.path = "$.body.left"
      ∧ ∀ new, parse (v.editAt (Value.setField "right" new) [.body]) = .error fault := by
  have hv : parse (.object [("body", .object [("left", .object [("type", .string "bogus")])]),
      ("type", .string "operator"), ("value", .string "&&")])
      = .error ⟨.unknownKind (some (.string "bogus")), [.body, .operand .left]⟩ := by
    have hl : parse (.object [("type", .string "bogus")])
        = .error (Cause.unknownKind (some (.string "bogus"))).here :=
      (RootFault.unknownKind (by decide)).parse_eq
    rw [parse_binary ⟨rfl, rfl, rfl⟩ rfl rfl, parseSide_of_lookup .left rfl, hl]
    rfl
  obtain ⟨hpath, -, -, hright⟩ := (parse_blames_first_fault _).2 _ hv
  exact ⟨_, _, hv, hpath, fun new => (hright [] List.prefix_rfl new).2⟩

end GridRules.Expression
