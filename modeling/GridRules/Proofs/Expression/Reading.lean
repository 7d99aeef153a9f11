import GridRules.Expression.Parse
import GridRules.Proofs.Expression.Language

/-!
# The reader and the language

The reader accepts the values of the language (`inLanguage_iff`) and answers every other value with
its first fault (`faulty_iff`).  Every later statement about the reader goes through these two, by
induction on a derivation and not on the reader.

At an operator node the reader goes on with the body of the node (`parseBody`) and there with one
side after the other (`parseSide`), which `parse_operatorNode` states as an equation.
-/

namespace GridRules.Expression

variable {fields operands : List (String × Value)} {symbol : String} {body : Value}

lemma parse_literal (kind : fields.lookup "type" = some (.string "literal")) :
    parse (.object fields) = .ok (.literal ((fields.lookup "value").getD .null)) := by
  rw [parse]
  simp only [kind]

lemma parse_field (kind : fields.lookup "type" = some (.string "value")) :
    parse (.object fields) = parseField fields := by
  rw [parse]
  simp only [kind]

/-- What an operator node says it is: an operator, or nothing that is one. -/
lemma parseOperator_cases (fields : List (String × Value)) :
    (∃ symbol op, fields.lookup "value" = some (.string symbol)
        ∧ Operator.ofSymbol? symbol = some op ∧ parseOperator fields = .ok (symbol, op))
      ∨ (∀ symbol ∈ "!" :: binarySymbols, fields.lookup "value" ≠ some (.string symbol))
        ∧ parseOperator fields = .error (Cause.unknownOperator (fields.lookup "value")).here := by
  unfold parseOperator
  split
  · rename_i symbol hv
    rw [hv]
    cases hs : Operator.ofSymbol? symbol with
    | some op => exact .inl ⟨symbol, op, rfl, hs, rfl⟩
    | none =>
      refine .inr ⟨?_, rfl⟩
      rintro s hs' h
      obtain rfl : symbol = s := by simpa using h
      obtain ⟨op, hop⟩ := mem_symbols_iff.1 hs'
      rw [hs] at hop
      cases hop
  · rename_i hv
    exact .inr ⟨fun s _ h => hv s h, rfl⟩

lemma symbol_of_parseOperator {op : Operator} (h : parseOperator fields = .ok (symbol, op)) :
    fields.lookup "value" = some (.string symbol) ∧ Operator.ofSymbol? symbol = some op := by
  rcases parseOperator_cases fields with ⟨s, o, hv, hs, hok⟩ | ⟨-, he⟩
  · rw [h] at hok
    obtain ⟨rfl, rfl⟩ : symbol = s ∧ op = o := by simpa using hok
    exact ⟨hv, hs⟩
  · rw [h] at he
    cases he

lemma binaryNode_of_parseOperator {op : Operator}
    (kind : fields.lookup "type" = some (.string "operator"))
    (h : parseOperator fields = .ok (symbol, op)) (hb : fields.lookup "body" = some body)
    (hu : ¬ op.isUnary = true) : OperatorNode fields symbol body ∧ symbol ∈ binarySymbols := by
  obtain ⟨value, hs⟩ := symbol_of_parseOperator h
  refine ⟨⟨kind, value, hb⟩, ?_⟩
  rcases ofSymbol?_cases hs with ⟨-, rfl⟩ | ⟨known, -⟩
  · exact absurd rfl hu
  · exact known

lemma parseOperator_of_symbol {op : Operator}
    (value : fields.lookup "value" = some (.string symbol))
    (hs : Operator.ofSymbol? symbol = some op) : parseOperator fields = .ok (symbol, op) := by
  rw [parseOperator, value]
  simp only [hs]

/-! ## How the reader goes on from an operator node -/

/-- One operand of a binary operator, read from the fields of the body. -/
def parseSide (side : Side) (operands : List (String × Value)) : Except Fault Expression :=
  match operands.lookup side.name with
  | none => .error ⟨.operandMissing side, [.body]⟩
  | some v => under [.body, .operand side] (parse v)

/-- The operator with what is read from its body. -/
def parseBody (op : Operator) (body : Value) : Except Fault Expression :=
  if op.isUnary then (under [.body] (parse body)).map (unary op)
  else
    match body with
    | .object operands =>
      match parseSide .left operands with
      | .error fault => .error fault
      | .ok left => (parseSide .right operands).map (binary op left)
    | _ => .error ⟨.bodyNotAnObject, [.body]⟩

lemma parseSide_of_lookup (side : Side) {v : Value} (h : operands.lookup side.name = some v) :
    parseSide side operands = under [.body, .operand side] (parse v) := by
  rw [parseSide, h]

lemma parseSide_of_missing (side : Side) (h : operands.lookup side.name = none) :
    parseSide side operands = .error ⟨.operandMissing side, [.body]⟩ := by
  rw [parseSide, h]

lemma parse_of_unknownOperator {fault : Fault}
    (kind : fields.lookup "type" = some (.string "operator"))
    (h : parseOperator fields = .error fault) : parse (.object fields) = .error fault := by
  rw [parse]
  simp only [kind, h]

lemma parse_of_bodyMissing {op : Operator}
    (kind : fields.lookup "type" = some (.string "operator"))
    (h : parseOperator fields = .ok (symbol, op)) (hb : fields.lookup "body" = none) :
    parse (.object fields) = .error (Cause.bodyMissing symbol).here := by
  rw [parse]
  simp only [kind, h]
  split
  · rfl
  · rename_i hb'
    rw [hb] at hb'
    cases hb'

lemma parse_operatorNode {op : Operator} (node : OperatorNode fields symbol body)
    (hs : Operator.ofSymbol? symbol = some op) : parse (.object fields) = parseBody op body := by
  rw [parse]
  simp only [node.kind, parseOperator_of_symbol node.symbol hs]
  split
  · rename_i hb
    rw [node.body] at hb
    cases hb
  · rename_i b hb
    obtain rfl : body = b := Option.some.inj (node.body.symm.trans hb)
    unfold parseBody
    by_cases hop : op.isUnary = true
    · rw [if_pos hop, if_pos hop]
    · rw [if_neg hop, if_neg hop]
      cases body with
      | object operands =>
        simp only
        split
        · rename_i hl
          rw [parseSide_of_missing .left hl]
        · rename_i l hl
          rw [parseSide_of_lookup .left hl]
          cases under [.body, .operand .left] (parse l) with
          | error fault => rfl
          | ok left =>
            simp only
            split
            · rename_i hr
              rw [parseSide_of_missing .right hr]
              rfl
            · rename_i r hr
              rw [parseSide_of_lookup .right hr]
      | _ => rfl

lemma parse_negation (node : OperatorNode fields "!" body) :
    parse (.object fields) = (under [.body] (parse body)).map (unary .not) :=
  parse_operatorNode node rfl

lemma parse_binary {op : Operator} (node : OperatorNode fields symbol (.object operands))
    (hs : Operator.ofSymbol? symbol = some op) (hop : op.isUnary = false) :
    parse (.object fields) = match parseSide .left operands with
      | .error fault => .error fault
      | .ok left => (parseSide .right operands).map (binary op left) := by
  rw [parse_operatorNode node hs, parseBody, if_neg (by simp [hop])]

/-! ## The reader follows the language -/

lemma RootFault.parse_eq {v : Value} {cause : Cause} (h : RootFault v cause) :
    parse v = .error cause.here := by
  cases h with
  | notAnObject h =>
    cases v with
    | object fields => exact absurd rfl (h fields)
    | _ => rw [parse]; simp
  | unknownKind h =>
    rw [parse]
    split
    · rename_i hk
      exact absurd hk (h _ (by simp))
    · rename_i hk
      exact absurd hk (h _ (by simp))
    · rename_i hk
      exact absurd hk (h _ (by simp))
    · rfl
  | fieldMissing kind h => rw [parse_field kind, parseField, h]
  | fieldNotNamed kind value text number =>
    rw [parse_field kind, parseField, value]
    split
    · rename_i hv
      exact absurd (Option.some.inj hv) (text _)
    · rename_i hv
      exact absurd (Option.some.inj hv) (number _)
    · rename_i hv
      rw [Option.some.inj hv]
    · rename_i hv
      cases hv
  | @unknownOperator fields kind h =>
    rcases parseOperator_cases fields with ⟨symbol, op, hv, hs, -⟩ | ⟨-, he⟩
    · exact absurd hv (h symbol (mem_symbols_iff.2 ⟨op, hs⟩))
    · exact parse_of_unknownOperator kind he
  | bodyMissing kind value known h =>
    obtain ⟨op, hs⟩ := mem_symbols_iff.1 known
    exact parse_of_bodyMissing kind (parseOperator_of_symbol value hs) h

/-- A value of the language is read as a tree in which every operator has as many operands as it
takes. -/
theorem InLanguage.exists_parse {v : Value} (h : InLanguage v) :
    ∃ e : Expression, e.WellFormed ∧ parse v = .ok e := by
  induction h with
  | literal kind => exact ⟨.literal _, trivial, parse_literal kind⟩
  | fieldText kind value =>
    exact ⟨.field _, trivial, by rw [parse_field kind, parseField, value]⟩
  | fieldNumber kind value =>
    exact ⟨.field _, trivial, by rw [parse_field kind, parseField, value]⟩
  | negation node _ ih =>
    obtain ⟨e, he, hp⟩ := ih
    refine ⟨.unary .not e, ⟨rfl, he⟩, ?_⟩
    rw [parse_negation node, hp]
    rfl
  | binary node known hl hr _ _ ihl ihr =>
    obtain ⟨a, ha, hpa⟩ := ihl
    obtain ⟨b, hb, hpb⟩ := ihr
    obtain ⟨op, hs, hop⟩ := exists_ofSymbol?_of_mem known
    refine ⟨.binary op a b, ⟨hop, ha, hb⟩, ?_⟩
    rw [parse_binary node hs hop, parseSide_of_lookup .left hl, hpa,
      parseSide_of_lookup .right hr, hpb]
    rfl

/-- A faulty value is read as its first fault. -/
theorem Faulty.parse_eq {v : Value} {fault : Fault} (h : Faulty v fault) :
    parse v = .error fault := by
  induction h with
  | root h => exact h.parse_eq
  | body node known h =>
    obtain ⟨op, hs, hop⟩ := exists_ofSymbol?_of_mem known
    cases h with
    | notAnObject h =>
      rw [parse_operatorNode node hs]
      unfold parseBody
      rw [if_neg (by simp [hop])]
      split
      · exact absurd rfl (h _)
      · rfl
    | leftMissing h => rw [parse_binary node hs hop, parseSide_of_missing .left h]
    | rightMissing hl left h =>
      obtain ⟨a, -, ha⟩ := left.exists_parse
      rw [parse_binary node hs hop, parseSide_of_lookup .left hl, ha, parseSide_of_missing .right h]
      rfl
  | negation node _ ih =>
    rw [parse_negation node, ih]
    rfl
  | left node known hl _ ih =>
    obtain ⟨op, hs, hop⟩ := exists_ofSymbol?_of_mem known
    rw [parse_binary node hs hop, parseSide_of_lookup .left hl, ih]
    rfl
  | right node known hl left hr _ ih =>
    obtain ⟨op, hs, hop⟩ := exists_ofSymbol?_of_mem known
    obtain ⟨a, -, ha⟩ := left.exists_parse
    rw [parse_binary node hs hop, parseSide_of_lookup .left hl, ha,
      parseSide_of_lookup .right hr, ih]
    rfl

/-- Every value is in the language or faulty. -/
theorem inLanguage_or_faulty (v : Value) : InLanguage v ∨ ∃ fault, Faulty v fault := by
  -- one case for each way through the reader; where an operand is read first, it is in the language
  -- or its own fault is the fault of the node
  fun_induction parse v with
  | case1 fields kind => exact .inl (.literal kind)
  | case2 fields kind =>
    cases value : fields.lookup "value" with
    | none => exact .inr ⟨_, .root (.fieldMissing kind value)⟩
    | some v =>
      cases v with
      | string s => exact .inl (.fieldText kind value)
      | number n => exact .inl (.fieldNumber kind value)
      | _ => exact .inr ⟨_, .root (.fieldNotNamed kind value (by simp) (by simp))⟩
  | case3 fields kind fault hop =>
    rcases parseOperator_cases fields with ⟨symbol, op, -, -, hok⟩ | ⟨h, -⟩
    · rw [hop] at hok
      cases hok
    · exact .inr ⟨_, .root (.unknownOperator kind h)⟩
  | case4 fields kind symbol op hop hb =>
    obtain ⟨value, hs⟩ := symbol_of_parseOperator hop
    exact .inr ⟨_, .root (.bodyMissing kind value (mem_symbols_iff.2 ⟨op, hs⟩) hb)⟩
  | case5 fields kind symbol op hop body hb hu ih =>
    obtain ⟨value, hs⟩ := symbol_of_parseOperator hop
    rcases ofSymbol?_cases hs with ⟨rfl, -⟩ | ⟨-, hu'⟩
    · have node : OperatorNode fields "!" body := ⟨kind, value, hb⟩
      rcases ih with ih | ⟨fault, ih⟩
      · exact .inl (.negation node ih)
      · exact .inr ⟨_, .negation node ih⟩
    · rw [hu] at hu'
      cases hu'
  | case6 fields kind symbol op hop hu operands _ hl hb =>
    obtain ⟨node, known⟩ := binaryNode_of_parseOperator kind hop hb hu
    exact .inr ⟨_, .body node known (.leftMissing hl)⟩
  | case7 fields kind symbol op hop hu operands _ l hl fault hpl hb ihl =>
    obtain ⟨node, known⟩ := binaryNode_of_parseOperator kind hop hb hu
    rcases ihl with left | ⟨fault, ihl⟩
    · -- the left operand was not read, so it cannot be in the language
      obtain ⟨e, -, he⟩ := left.exists_parse
      rw [he] at hpl
      cases hpl
    · exact .inr ⟨_, .left node known hl ihl⟩
  | case8 fields kind symbol op hop hu operands _ l hl e hpl hr hb ihl =>
    obtain ⟨node, known⟩ := binaryNode_of_parseOperator kind hop hb hu
    rcases ihl with left | ⟨fault, ihl⟩
    · exact .inr ⟨_, .body node known (.rightMissing hl left hr)⟩
    · exact .inr ⟨_, .left node known hl ihl⟩
  | case9 fields kind symbol op hop hu operands _ l hl e hpl r hr hb ihl ihr =>
    obtain ⟨node, known⟩ := binaryNode_of_parseOperator kind hop hb hu
    rcases ihl with left | ⟨fault, ihl⟩
    · rcases ihr with right | ⟨fault, ihr⟩
      · exact .inl (.binary node known hl hr left right)
      · exact .inr ⟨_, .right node known hl left hr ihr⟩
    · exact .inr ⟨_, .left node known hl ihl⟩
  | case10 fields kind symbol op hop body hb hu _ hobject =>
    obtain ⟨node, known⟩ := binaryNode_of_parseOperator kind hop hb hu
    refine .inr ⟨_, .body node known (.notAnObject ?_)⟩
    rintro operands rfl
    exact hobject operands hb rfl HEq.rfl
  | case11 fields hliteral hfield hoperator =>
    refine .inr ⟨_, .root (.unknownKind ?_)⟩
    intro kind hk
    simp only [List.mem_cons, List.not_mem_nil, or_false] at hk
    rcases hk with rfl | rfl | rfl
    · exact hliteral
    · exact hfield
    · exact hoperator
  | case12 v hv => exact .inr ⟨_, .root (.notAnObject hv)⟩

/-- The reader accepts the language and nothing else. -/
theorem inLanguage_iff {v : Value} : InLanguage v ↔ ∃ e, parse v = .ok e := by
  constructor
  · intro h
    obtain ⟨e, -, he⟩ := h.exists_parse
    exact ⟨e, he⟩
  · rintro ⟨e, he⟩
    rcases inLanguage_or_faulty v with h | ⟨fault, h⟩
    · exact h
    · rw [h.parse_eq] at he
      cases he

/-- The reader finds the first fault and no other. -/
theorem faulty_iff {v : Value} {fault : Fault} : Faulty v fault ↔ parse v = .error fault := by
  constructor
  · exact Faulty.parse_eq
  · intro hv
    rcases inLanguage_or_faulty v with h | ⟨fault', h⟩
    · obtain ⟨e, -, he⟩ := h.exists_parse
      rw [he] at hv
      cases hv
    · obtain rfl : fault' = fault := by simpa [hv] using h.parse_eq.symm
      exact h

lemma wellFormed_of_parse {v : Value} {e : Expression} (h : parse v = .ok e) : e.WellFormed := by
  obtain ⟨e', he', hp⟩ := (inLanguage_iff.2 ⟨e, h⟩).exists_parse
  obtain rfl : e' = e := Except.ok.inj (hp.symm.trans h)
  exact he'

lemma RootFault.not_inLanguage {v : Value} {cause : Cause} (h : RootFault v cause) :
    ¬ InLanguage v := by
  rw [inLanguage_iff]
  rintro ⟨e, he⟩
  rw [h.parse_eq] at he
  cases he

end GridRules.Expression
