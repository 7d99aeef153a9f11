import GridRules.Proofs.Expression.Reading

/-!
# The round trip through the wire form

A tree is read back from its wire form exactly when each of its operators has as many operands as it
takes (`inLanguage_toValue_iff`).  An operator with the wrong number of operands cannot be mistaken
for one with the right number, because a wire form never has a field `left` and the body of two
operands never has a field `type`.

Writing what was read gives the canonical spelling of a wire form (`Canonical`): a value may leave
out the value of a constant, name a field by a number, use the second symbol of the disjunction and
hold fields that no node needs, and none of this is left after one reading.
-/

namespace GridRules.Expression

lemma isUnary_eq_false_of_symbol {op : Operator} (h : op.symbol ∈ binarySymbols) :
    op.isUnary = false := by
  cases op <;> first | rfl | (revert h; decide)

lemma isUnary_of_symbol {op : Operator} (h : op.symbol = "!") : op.isUnary = true := by
  cases op <;> first | rfl | (revert h; decide)

lemma eq_not_of_isUnary {op : Operator} (h : op.isUnary = true) : op = .not := by
  cases op <;> first | rfl | (revert h; decide)

lemma symbol_mem_binarySymbols {op : Operator} (h : op.isUnary = false) :
    op.symbol ∈ binarySymbols := by
  cases op <;> first | decide | (revert h; decide)

lemma operatorNode_unary (op : Operator) (e : Expression) :
    OperatorNode [("body", e.toValue), ("type", .string "operator"), ("value", .string op.symbol)]
      op.symbol e.toValue := ⟨rfl, rfl, rfl⟩

lemma operatorNode_binary (op : Operator) (l r : Expression) :
    OperatorNode [("body", .object [("left", l.toValue), ("right", r.toValue)]),
        ("type", .string "operator"), ("value", .string op.symbol)]
      op.symbol (.object [("left", l.toValue), ("right", r.toValue)]) := ⟨rfl, rfl, rfl⟩

lemma field?_left_toValue (e : Expression) : e.toValue.field? "left" = none := by
  cases e <;> rfl

/-- The wire form of a tree is in the language exactly when all operators have as many operands as
they take. -/
theorem inLanguage_toValue_iff {e : Expression} : InLanguage e.toValue ↔ e.WellFormed := by
  induction e with
  | literal value => exact ⟨fun _ => trivial, fun _ => .literal rfl⟩
  | field name => exact ⟨fun _ => trivial, fun _ => .fieldText rfl rfl⟩
  | unary op e ih =>
    constructor
    · intro h
      rcases h.operator_inv (operatorNode_unary op e) with ⟨hs, he⟩ | ⟨-, l, r, hl, -⟩
      · exact ⟨isUnary_of_symbol hs, ih.1 he⟩
      · -- the operand would have to be a body with two operands
        rw [field?_left_toValue] at hl
        cases hl
    · rintro ⟨hop, he⟩
      obtain rfl := eq_not_of_isUnary hop
      exact .negation (operatorNode_unary .not e) (ih.2 he)
  | binary op l r ihl ihr =>
    constructor
    · intro h
      rcases h.operator_inv (operatorNode_binary op l r) with
        ⟨-, hbody⟩ | ⟨known, l', r', hl, hr, h⟩
      · -- the body with two operands would have to be a node
        obtain ⟨kind, hk⟩ := hbody.hasKind
        cases hk
      · obtain rfl : l.toValue = l' := Option.some.inj hl
        obtain rfl : r.toValue = r' := Option.some.inj hr
        exact ⟨isUnary_eq_false_of_symbol known, ihl.1 h.1, ihr.1 h.2⟩
    · rintro ⟨hop, hl, hr⟩
      exact .binary (operatorNode_binary op l r) (symbol_mem_binarySymbols hop) rfl rfl
        (ihl.2 hl) (ihr.2 hr)

/-- A tree whose operators have as many operands as they take is read back from its wire form. -/
theorem parse_toValue {e : Expression} (h : e.WellFormed) : parse e.toValue = .ok e := by
  induction e with
  | literal value => exact parse_literal rfl
  | field name => exact parse_field rfl
  | unary op e ih =>
    obtain rfl := eq_not_of_isUnary h.1
    rw [toValue, parse_negation (operatorNode_unary .not e), ih h.2]
    rfl
  | binary op l r ihl ihr =>
    rw [toValue, parse_binary (operatorNode_binary op l r) (Operator.ofSymbol?_symbol op) h.1,
      parseSide_of_lookup .left rfl, ihl h.2.1, parseSide_of_lookup .right rfl, ihr h.2.2]
    rfl

/-! ## Canonical spelling -/

/-- The symbols with which operators on two operands are written. -/
def canonicalSymbols : List String := ["&&", "||", "==", "includes", "<=", ">="]

lemma mem_canonicalSymbols_iff {symbol : String} :
    symbol ∈ canonicalSymbols ↔ ∃ op : Operator, op.isUnary = false ∧ op.symbol = symbol := by
  constructor
  · intro h
    simp only [canonicalSymbols, List.mem_cons, List.not_mem_nil, or_false] at h
    rcases h with rfl | rfl | rfl | rfl | rfl | rfl
    · exact ⟨.and, rfl, rfl⟩
    · exact ⟨.or, rfl, rfl⟩
    · exact ⟨.equals, rfl, rfl⟩
    · exact ⟨.includes, rfl, rfl⟩
    · exact ⟨.atMost, rfl, rfl⟩
    · exact ⟨.atLeast, rfl, rfl⟩
  · rintro ⟨op, hop, rfl⟩
    revert hop
    cases op <;> decide

/-- The wire forms in canonical spelling: every node has the fields it needs and no others, a
constant tells its value, a field is named by a text, and the disjunction has its plain symbol. -/
inductive Canonical : Value → Prop
  /-- A constant. -/
  | literal (value : Value) :
      Canonical (.object [("type", .string "literal"), ("value", value)])
  /-- A field. -/
  | field (name : String) :
      Canonical (.object [("type", .string "value"), ("value", .string name)])
  /-- A negation. -/
  | negation {body : Value} (operand : Canonical body) :
      Canonical (.object [("body", body), ("type", .string "operator"), ("value", .string "!")])
  /-- An operator on two operands. -/
  | binary {symbol : String} {l r : Value}
      (known : symbol ∈ canonicalSymbols)
      (left : Canonical l) (right : Canonical r) :
      Canonical (.object [("body", .object [("left", l), ("right", r)]),
        ("type", .string "operator"), ("value", .string symbol)])

/-- The canonical spellings are the wire forms of the trees whose operators have as many operands as
they take. -/
theorem canonical_iff {v : Value} :
    Canonical v ↔ ∃ e : Expression, e.WellFormed ∧ e.toValue = v := by
  constructor
  · intro h
    induction h with
    | literal value => exact ⟨.literal value, trivial, rfl⟩
    | field name => exact ⟨.field name, trivial, rfl⟩
    | negation _ ih =>
      obtain ⟨e, he, rfl⟩ := ih
      exact ⟨.unary .not e, ⟨rfl, he⟩, rfl⟩
    | binary known _ _ ihl ihr =>
      obtain ⟨l, hl, rfl⟩ := ihl
      obtain ⟨r, hr, rfl⟩ := ihr
      obtain ⟨op, hop, rfl⟩ := mem_canonicalSymbols_iff.1 known
      exact ⟨.binary op l r, ⟨hop, hl, hr⟩, rfl⟩
  · rintro ⟨e, he, rfl⟩
    induction e with
    | literal value => exact .literal value
    | field name => exact .field name
    | unary op e ih =>
      obtain rfl := eq_not_of_isUnary he.1
      exact .negation (ih he.2)
    | binary op l r ihl ihr =>
      have known : op.symbol ∈ canonicalSymbols := mem_canonicalSymbols_iff.2 ⟨op, he.1, rfl⟩
      exact .binary known (ihl he.2.1) (ihr he.2.2)

/-- A tree and its wire form determine each other.  A tree is read back from its wire form when all
its operators have as many operands as they take, and otherwise nothing is.  What is read from any
value is such a tree; its wire form is canonical, it is the value itself only when that is canonical
already, and two values are read as the same tree exactly when the wire forms of their trees are the
same. -/
theorem wireForm_roundTrip :
    (∀ e : Expression, e.WellFormed → parse e.toValue = .ok e)
      ∧ (∀ e : Expression, ¬ e.WellFormed → ∃ fault, parse e.toValue = .error fault)
      ∧ (∀ v e, parse v = .ok e → e.WellFormed ∧ parse e.toValue = .ok e
        ∧ Canonical e.toValue ∧ (Canonical v ↔ e.toValue = v))
      ∧ ∀ v w a b, parse v = .ok a → parse w = .ok b → (a = b ↔ a.toValue = b.toValue) := by
  refine ⟨fun e he => parse_toValue he, fun e he => ?_, fun v e hv => ?_, fun v w a b hv hw => ?_⟩
  · rw [← inLanguage_toValue_iff] at he
    rcases inLanguage_or_faulty e.toValue with h | ⟨fault, h⟩
    · exact absurd h he
    · exact ⟨fault, h.parse_eq⟩
  · have he := wellFormed_of_parse hv
    have hcanonical : Canonical e.toValue := canonical_iff.2 ⟨e, he, rfl⟩
    refine ⟨he, parse_toValue he, hcanonical, fun h => ?_, fun h => h ▸ hcanonical⟩
    obtain ⟨e', he', rfl⟩ := canonical_iff.1 h
    rw [parse_toValue he'] at hv
    rw [Except.ok.inj hv]
  · refine ⟨congrArg toValue, fun h => ?_⟩
    have ha := parse_toValue (wellFormed_of_parse hv)
    rw [h, parse_toValue (wellFormed_of_parse hw)] at ha
    exact (Except.ok.inj ha).symm

/-- The second symbol of the disjunction is read, and it is not written again. -/
theorem wireForm_roundTrip_second_symbol :
    ∃ v e, v.field? "value" = some (.string "|| ") ∧ parse v = .ok e ∧ parse e.toValue = .ok e
      ∧ Canonical e.toValue ∧ ¬ Canonical v := by
  have hv : parse (.object [("body", .object [("left", .object [("type", .string "value"),
        ("value", .string "a")]), ("right", .object [("type", .string "literal")])]),
      ("type", .string "operator"), ("value", .string "|| ")])
      = .ok (binary .or (field "a") (literal .null)) := by
    rw [parse_binary ⟨rfl, rfl, rfl⟩ rfl rfl, parseSide_of_lookup .left rfl, parse_field rfl,
      parseSide_of_lookup .right rfl, parse_literal rfl]
    rfl
  obtain ⟨-, hparse, hcanonical, hv'⟩ := wireForm_roundTrip.2.2.1 _ _ hv
  exact ⟨_, _, rfl, hv, hparse, hcanonical, fun h => absurd (hv'.1 h) (by decide)⟩

end GridRules.Expression
