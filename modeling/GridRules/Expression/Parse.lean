import GridRules.Expression.Fault

/-!
# Reading an expression from its wire form

`Expression.parse` takes a JSON value to the expression it stands for, or to the first fault on the
way from the root, the left operand before the right one. Keys that a node does not need are
ignored.
-/

namespace GridRules

theorem sizeOf_lt_of_lookup {name : String} {v : Value} {fields : List (String × Value)}
    (h : fields.lookup name = some v) : sizeOf v < sizeOf fields := by
  induction fields with
  | nil => simp at h
  | cons e r ih =>
    obtain ⟨n, w⟩ := e
    rw [lookup_entry] at h
    split at h
    · obtain rfl := Option.some.inj h
      simp only [List.cons.sizeOf_spec, Prod.mk.sizeOf_spec]
      omega
    · have := ih h
      simp only [List.cons.sizeOf_spec]
      omega

namespace Expression

/-- Whether a configuration value is meant as an expression: it is an object that tells a kind. -/
def hasShape (v : Value) : Bool := (v.field? "type").isSome

/-- Reads the fields of a field node. A number names the field that its JSON text names. -/
def parseField (fields : List (String × Value)) : Except Fault Expression :=
  match fields.lookup "value" with
  | some (.string name) => .ok (.field name)
  | some (.number n) => .ok (.field (Value.render (.number n)))
  | some v => .error (Cause.fieldNotNamed v).here
  | none => .error Cause.fieldMissing.here

/-- Reads the symbol of an operator node, as it is written, with its operator. -/
def parseOperator (fields : List (String × Value)) : Except Fault (String × Operator) :=
  match fields.lookup "value" with
  | some (.string symbol) =>
    match Operator.ofSymbol? symbol with
    | some op => .ok (symbol, op)
    | none => .error (Cause.unknownOperator (some (.string symbol))).here
  | tag => .error (Cause.unknownOperator tag).here

/-- Reads an expression from its wire form. -/
def parse : Value → Except Fault Expression
  | .object fields =>
    match fields.lookup "type" with
    | some (.string "literal") => .ok (.literal ((fields.lookup "value").getD .null))
    | some (.string "value") => parseField fields
    | some (.string "operator") =>
      match parseOperator fields with
      | .error fault => .error fault
      | .ok (symbol, op) =>
        match _hb : fields.lookup "body" with
        | none => .error (Cause.bodyMissing symbol).here
        | some body =>
          if op.isUnary then (under [.body] (parse body)).map (unary op)
          else
            match body with
            | .object operands =>
              match _hl : operands.lookup "left" with
              | none => .error ⟨.operandMissing .left, [.body]⟩
              | some l =>
                match under [.body, .operand .left] (parse l) with
                | .error fault => .error fault
                | .ok left =>
                  match _hr : operands.lookup "right" with
                  | none => .error ⟨.operandMissing .right, [.body]⟩
                  | some r => (under [.body, .operand .right] (parse r)).map (binary op left)
            | _ => .error ⟨.bodyNotAnObject, [.body]⟩
    | tag => .error (Cause.unknownKind tag).here
  | v => .error (Cause.notAnObject v).here
termination_by v => sizeOf v
decreasing_by
  · have := sizeOf_lt_of_lookup _hb
    simp only [Value.object.sizeOf_spec]
    omega
  · have := sizeOf_lt_of_lookup _hb
    have := sizeOf_lt_of_lookup _hl
    simp only [Value.object.sizeOf_spec] at *
    omega
  · have := sizeOf_lt_of_lookup _hb
    have := sizeOf_lt_of_lookup _hr
    simp only [Value.object.sizeOf_spec] at *
    omega

end Expression

end GridRules
