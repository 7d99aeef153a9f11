import GridRules.Proofs.Expression.Position

/-!
# The language of wire forms

The wire forms of expressions as an inductive language, `InLanguage`, and what can be wrong with a
value outside it, `Faulty`.  A value is faulty at its own root (`RootFault`), in the body of an
operator with two operands (`BodyFault`), or in an operand, the left one before the right one.

Both speak of look-ups only, so that fields which a node does not need are ignored, and neither
mentions the reader; `GridRules.Proofs.Expression.Reading` shows that the reader follows them.
-/

namespace GridRules.Expression

/-! ## Operator nodes -/

/-- The symbols of the operators with two operands. -/
def binarySymbols : List String := ["&&", "||", "|| ", "==", "includes", "<=", ">="]

/-- The fields of an operator node with its symbol and its body; further fields do not matter. -/
structure OperatorNode (fields : List (String × Value)) (symbol : String) (body : Value) :
    Prop where
  kind : fields.lookup "type" = some (.string "operator")
  symbol : fields.lookup "value" = some (.string symbol)
  body : fields.lookup "body" = some body

lemma OperatorNode.insert_body {fields : List (String × Value)} {symbol : String}
    {body : Value} (node : OperatorNode fields symbol body) (body' : Value) :
    OperatorNode (insertEntry "body" body' fields) symbol body' where
  kind := by rw [lookup_insertEntry, if_neg (by decide), node.kind]
  symbol := by rw [lookup_insertEntry, if_neg (by decide), node.symbol]
  body := by rw [lookup_insertEntry, if_pos rfl]

lemma exists_ofSymbol?_of_mem {symbol : String} (h : symbol ∈ binarySymbols) :
    ∃ op, Operator.ofSymbol? symbol = some op ∧ op.isUnary = false := by
  simp only [binarySymbols, List.mem_cons, List.not_mem_nil, or_false] at h
  rcases h with rfl | rfl | rfl | rfl | rfl | rfl | rfl <;> exact ⟨_, rfl, rfl⟩

/-- A known symbol is that of the negation or of an operator with two operands. -/
lemma ofSymbol?_cases {symbol : String} {op : Operator} (h : Operator.ofSymbol? symbol = some op) :
    symbol = "!" ∧ op = .not ∨ symbol ∈ binarySymbols ∧ op.isUnary = false := by
  unfold Operator.ofSymbol? at h
  split at h
  case h_9 => cases h
  all_goals
    obtain rfl := Option.some.inj h
    decide

lemma mem_symbols_iff {symbol : String} :
    symbol ∈ "!" :: binarySymbols ↔ ∃ op, Operator.ofSymbol? symbol = some op := by
  constructor
  · intro h
    rcases List.mem_cons.1 h with rfl | h
    · exact ⟨.not, rfl⟩
    · obtain ⟨op, hop, -⟩ := exists_ofSymbol?_of_mem h
      exact ⟨op, hop⟩
  · rintro ⟨op, hop⟩
    rcases ofSymbol?_cases hop with ⟨rfl, -⟩ | ⟨h, -⟩
    · exact List.mem_cons_self
    · exact List.mem_cons_of_mem _ h

/-! ## The language -/

/-- The wire forms of expressions.  Fields that a node does not need are not mentioned, so they may
be there or not. -/
inductive InLanguage : Value → Prop
  /-- A constant, null where none is given. -/
  | literal {fields : List (String × Value)}
      (kind : fields.lookup "type" = some (.string "literal")) : InLanguage (.object fields)
  /-- A field, named by a text. -/
  | fieldText {fields : List (String × Value)} {name : String}
      (kind : fields.lookup "type" = some (.string "value"))
      (value : fields.lookup "value" = some (.string name)) : InLanguage (.object fields)
  /-- A field, named by a number. -/
  | fieldNumber {fields : List (String × Value)} {n : Number}
      (kind : fields.lookup "type" = some (.string "value"))
      (value : fields.lookup "value" = some (.number n)) : InLanguage (.object fields)
  /-- The negation of its body. -/
  | negation {fields : List (String × Value)} {body : Value}
      (node : OperatorNode fields "!" body) (operand : InLanguage body) :
      InLanguage (.object fields)
  /-- An operator on the two operands in its body. -/
  | binary {fields operands : List (String × Value)} {symbol : String} {l r : Value}
      (node : OperatorNode fields symbol (.object operands)) (known : symbol ∈ binarySymbols)
      (hl : operands.lookup "left" = some l) (hr : operands.lookup "right" = some r)
      (left : InLanguage l) (right : InLanguage r) : InLanguage (.object fields)

lemma InLanguage.hasKind {v : Value} (h : InLanguage v) : ∃ kind, v.field? "type" = some kind := by
  cases h with
  | literal kind => exact ⟨_, kind⟩
  | fieldText kind _ => exact ⟨_, kind⟩
  | fieldNumber kind _ => exact ⟨_, kind⟩
  | negation node _ => exact ⟨_, node.kind⟩
  | binary node _ _ _ _ _ => exact ⟨_, node.kind⟩

/-- What an operator node needs to be in the language. -/
lemma InLanguage.operator_inv {fields : List (String × Value)} {symbol : String} {body : Value}
    (h : InLanguage (.object fields)) (node : OperatorNode fields symbol body) :
    symbol = "!" ∧ InLanguage body
      ∨ symbol ∈ binarySymbols ∧ ∃ l r, body.field? "left" = some l ∧ body.field? "right" = some r
        ∧ InLanguage l ∧ InLanguage r := by
  cases h with
  | literal kind => simp [node.kind] at kind
  | fieldText kind _ => simp [node.kind] at kind
  | fieldNumber kind _ => simp [node.kind] at kind
  | negation node' operand =>
    obtain rfl : symbol = "!" := by simpa [node.symbol] using node'.symbol
    obtain rfl := Option.some.inj (node.body.symm.trans node'.body)
    exact .inl ⟨rfl, operand⟩
  | @binary _ operands symbol' l r node' known hl hr left right =>
    obtain rfl : symbol = symbol' := by simpa [node.symbol] using node'.symbol
    obtain rfl := Option.some.inj (node.body.symm.trans node'.body)
    exact .inr ⟨known, l, r, hl, hr, left, right⟩

/-! ## Faults -/

/-- What is wrong with a value itself, whatever its parts are. -/
inductive RootFault : Value → Cause → Prop
  /-- No object. -/
  | notAnObject {v : Value} (h : ∀ fields, v ≠ .object fields) : RootFault v (.notAnObject v)
  /-- Of none of the three kinds. -/
  | unknownKind {fields : List (String × Value)}
      (h : ∀ kind ∈ ["literal", "value", "operator"],
        fields.lookup "type" ≠ some (.string kind)) :
      RootFault (.object fields) (.unknownKind (fields.lookup "type"))
  /-- A field without a name. -/
  | fieldMissing {fields : List (String × Value)}
      (kind : fields.lookup "type" = some (.string "value"))
      (h : fields.lookup "value" = none) : RootFault (.object fields) .fieldMissing
  /-- A field whose name is neither a text nor a number. -/
  | fieldNotNamed {fields : List (String × Value)} {v : Value}
      (kind : fields.lookup "type" = some (.string "value"))
      (value : fields.lookup "value" = some v)
      (text : ∀ s, v ≠ .string s) (number : ∀ n, v ≠ .number n) :
      RootFault (.object fields) (.fieldNotNamed v)
  /-- An operator whose symbol is not known. -/
  | unknownOperator {fields : List (String × Value)}
      (kind : fields.lookup "type" = some (.string "operator"))
      (h : ∀ symbol ∈ "!" :: binarySymbols,
        fields.lookup "value" ≠ some (.string symbol)) :
      RootFault (.object fields) (.unknownOperator (fields.lookup "value"))
  /-- An operator without a body. -/
  | bodyMissing {fields : List (String × Value)} {symbol : String}
      (kind : fields.lookup "type" = some (.string "operator"))
      (value : fields.lookup "value" = some (.string symbol))
      (known : symbol ∈ "!" :: binarySymbols)
      (h : fields.lookup "body" = none) : RootFault (.object fields) (.bodyMissing symbol)

/-- What is wrong with the body of an operator with two operands. -/
inductive BodyFault : Value → Cause → Prop
  /-- No object. -/
  | notAnObject {body : Value} (h : ∀ operands, body ≠ .object operands) :
      BodyFault body .bodyNotAnObject
  /-- No left operand. -/
  | leftMissing {operands : List (String × Value)} (h : operands.lookup "left" = none) :
      BodyFault (.object operands) (.operandMissing .left)
  /-- No right operand, the left one being in order. -/
  | rightMissing {operands : List (String × Value)} {l : Value}
      (hl : operands.lookup "left" = some l) (left : InLanguage l)
      (h : operands.lookup "right" = none) :
      BodyFault (.object operands) (.operandMissing .right)

/-- The first thing that is wrong with a value, in the order in which it is read. -/
inductive Faulty : Value → Fault → Prop
  /-- The value itself. -/
  | root {v : Value} {cause : Cause} (h : RootFault v cause) : Faulty v cause.here
  /-- The body of an operator with two operands. -/
  | body {fields : List (String × Value)} {symbol : String} {body : Value} {cause : Cause}
      (node : OperatorNode fields symbol body) (known : symbol ∈ binarySymbols)
      (h : BodyFault body cause) : Faulty (.object fields) ⟨cause, [.body]⟩
  /-- The operand of a negation. -/
  | negation {fields : List (String × Value)} {body : Value} {fault : Fault}
      (node : OperatorNode fields "!" body) (h : Faulty body fault) :
      Faulty (.object fields) (fault.under [.body])
  /-- The left operand. -/
  | left {fields operands : List (String × Value)} {symbol : String} {l : Value} {fault : Fault}
      (node : OperatorNode fields symbol (.object operands)) (known : symbol ∈ binarySymbols)
      (hl : operands.lookup "left" = some l) (h : Faulty l fault) :
      Faulty (.object fields) (fault.under [.body, .operand .left])
  /-- The right operand, the left one being in order. -/
  | right {fields operands : List (String × Value)} {symbol : String} {l r : Value} {fault : Fault}
      (node : OperatorNode fields symbol (.object operands)) (known : symbol ∈ binarySymbols)
      (hl : operands.lookup "left" = some l) (left : InLanguage l)
      (hr : operands.lookup "right" = some r) (h : Faulty r fault) :
      Faulty (.object fields) (fault.under [.body, .operand .right])

end GridRules.Expression
