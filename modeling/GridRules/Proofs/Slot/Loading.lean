import GridRules.Proofs.Expression.Evaluation
import GridRules.Proofs.Expression.RoundTrip
import GridRules.Slot

/-!
# Loaded slots and written slots

A slot can be loaded from what is written and resolved later, on any row, or what is written can be
resolved at once.  The two agree (`Slot.PathsAgree`): a loaded slot always resolves, to the value
that the written one has, and what cannot be loaded as an expression gives the fallback.

For an expression this rests on the reader, which builds only trees that can be evaluated.  For a
fixed value it rests on the type of the slot: a value that is accepted strictly is the result that
it writes, and it is written back as it was (`LawfulSlotType`).
-/

namespace GridRules

/-- The fixed values of a type mean themselves, both as results and when they are written back. -/
class LawfulSlotType (α : Type) [SlotType α] : Prop where
  /-- What is accepted as a fixed value counts as the same value when it is a result. -/
  ofResult_of_ofLiteral? {v : Value} {a : α} (h : SlotType.ofLiteral? v = some a) :
    SlotType.ofResult v = a
  /-- A fixed value is written as it was accepted. -/
  toValue_of_ofLiteral? {v : Value} {a : α} (h : SlotType.ofLiteral? v = some a) :
    SlotType.toValue a = v

instance : LawfulSlotType Bool where
  ofResult_of_ofLiteral? := by
    intro v a h
    cases v with
    | bool b => exact Option.some.inj h
    | _ => cases h
  toValue_of_ofLiteral? := by
    intro v a h
    cases v with
    | bool b => exact congrArg Value.bool (Option.some.inj h).symm
    | _ => cases h

instance : LawfulSlotType String where
  ofResult_of_ofLiteral? := by
    intro v a h
    cases v with
    | string s =>
      obtain rfl := Option.some.inj h
      exact String.ofList_toList
    | _ => cases h
  toValue_of_ofLiteral? := by
    intro v a h
    cases v with
    | string s => exact congrArg Value.string (Option.some.inj h).symm
    | _ => cases h

instance : LawfulSlotType Value where
  ofResult_of_ofLiteral? h := Option.some.inj h
  toValue_of_ofLiteral? h := (Option.some.inj h).symm

lemma Expression.hasShape_toValue (e : Expression) : hasShape e.toValue = true := by
  cases e <;> rfl

namespace Slot

variable {α : Type} [SlotType α]

/-! ## What a loaded slot is -/

/-- A slot is loaded from an expression that can be read, or from a value that the type accepts. -/
lemma ofValue_eq_ok_iff {raw : Value} {slot : Slot α} : ofValue raw = .ok slot ↔
    (Expression.hasShape raw = true ∧ ∃ e, Expression.parse raw = .ok e ∧ slot = .computed e)
      ∨ Expression.hasShape raw = false
        ∧ ∃ a, SlotType.ofLiteral? raw = some a ∧ slot = .fixed a := by
  unfold ofValue
  cases hshape : Expression.hasShape raw with
  | true =>
    cases hparse : Expression.parse raw with
    | error fault => simp
    | ok e => simp [eq_comm]
  | false =>
    cases hliteral : (SlotType.ofLiteral? raw : Option α) with
    | none => simp
    | some a => simp [eq_comm]

/-- An expression that was read has a value on every row, so a loaded slot does too. -/
lemma exists_resolve {raw : Value} {slot : Slot α} (h : ofValue raw = .ok slot) (row : Row) :
    ∃ a, slot.resolve row = .ok a := by
  rcases ofValue_eq_ok_iff.1 h with ⟨-, e, he, rfl⟩ | ⟨-, a, -, rfl⟩
  · obtain ⟨v, hv⟩ := Expression.evaluate_of_wellFormed row (Expression.wellFormed_of_parse he)
    exact ⟨SlotType.ofResult v, by rw [resolve, hv]; rfl⟩
  · exact ⟨a, rfl⟩

lemma resolveOr_of_resolve {slot : Slot α} {row : Row} {a : α} (h : slot.resolve row = .ok a)
    (fallback : α) : slot.resolveOr row fallback = a := by
  rw [resolveOr, h]

/-- What is written resolves to the value of the slot that is loaded from it. -/
lemma resolveWritten_of_resolve [LawfulSlotType α] {raw : Value} {slot : Slot α} {row : Row} {a : α}
    (h : ofValue raw = .ok slot) (ha : slot.resolve row = .ok a) (fallback : α) :
    resolveWritten row raw fallback = a := by
  rcases ofValue_eq_ok_iff.1 h with ⟨hshape, e, he, rfl⟩ | ⟨hshape, b, hb, rfl⟩
  · rw [resolveWritten, if_pos hshape, Expression.evaluateWire, he]
    rw [resolve] at ha
    cases hv : e.evaluate row with
    | error fault => simp [hv, Except.map] at ha
    | ok v => simpa [hv, Except.map] using ha
  · obtain rfl : b = a := Except.ok.inj ha
    rw [resolveWritten, hshape]
    exact LawfulSlotType.ofResult_of_ofLiteral? hb

/-- What has the shape of an expression and cannot be read as one gives the fallback. -/
lemma resolveWritten_of_refused {raw : Value} {error : ReadError}
    (hshape : Expression.hasShape raw = true)
    (h : (ofValue raw : Except ReadError (Slot α)) = .error error) (row : Row) (fallback : α) :
    resolveWritten row raw fallback = fallback := by
  rw [ofValue, if_pos hshape] at h
  cases hparse : Expression.parse raw with
  | error fault => rw [resolveWritten, if_pos hshape, Expression.evaluateWire, hparse]
  | ok e => simp [hparse] at h

/-- A loaded slot is loaded again from what it is written as. -/
lemma ofValue_toValue [LawfulSlotType α] {raw : Value} {slot : Slot α}
    (h : ofValue raw = .ok slot) : ofValue slot.toValue = .ok slot := by
  rcases ofValue_eq_ok_iff.1 h with ⟨-, e, he, rfl⟩ | ⟨-, a, ha, rfl⟩
  · refine ofValue_eq_ok_iff.2 (.inl ⟨e.hasShape_toValue, e, ?_, rfl⟩)
    exact Expression.parse_toValue (Expression.wellFormed_of_parse he)
  · rw [toValue, LawfulSlotType.toValue_of_ofLiteral? ha]
    exact h

/-! ## Both paths -/

/-- The two paths from what is written to a value agree for the slots of a type. -/
structure PathsAgree (α : Type) [SlotType α] : Prop where
  /-- A loaded slot resolves on every row, without the fallback, and what is written resolves to the
  same value; the slot is loaded again from what it is written as. -/
  loaded {raw : Value} {slot : Slot α} (h : ofValue raw = .ok slot) (row : Row) (fallback : α) :
    ∃ a, slot.resolve row = .ok a ∧ slot.resolveOr row fallback = a
      ∧ resolveWritten row raw fallback = a ∧ ofValue slot.toValue = .ok slot
  /-- What has the shape of an expression and cannot be loaded gives the fallback on every row. -/
  refused {raw : Value} {error : ReadError} (hshape : Expression.hasShape raw = true)
    (h : (ofValue raw : Except ReadError (Slot α)) = .error error) (row : Row) (fallback : α) :
    resolveWritten row raw fallback = fallback

lemma pathsAgree_of_lawful [LawfulSlotType α] : PathsAgree α where
  loaded h row fallback := by
    obtain ⟨a, ha⟩ := exists_resolve h row
    exact ⟨a, ha, resolveOr_of_resolve ha fallback, resolveWritten_of_resolve h ha fallback,
      ofValue_toValue h⟩
  refused hshape h row fallback := resolveWritten_of_refused hshape h row fallback

/-- Slots of truth values, of texts and of any values resolve to the same value whether they are
loaded first or resolved as they are written. -/
theorem loaded_slots_resolve_as_written :
    PathsAgree Bool ∧ PathsAgree String ∧ PathsAgree Value :=
  ⟨pathsAgree_of_lawful, pathsAgree_of_lawful, pathsAgree_of_lawful⟩

/-- A field of the row in a slot of texts, and an unknown kind of node in a slot of truth values. -/
theorem resolveWritten_of_field_and_unknown_kind :
    let written := Value.object [("type", .string "value"), ("value", .string "age")]
    let unknown := Value.object [("type", .string "sum")]
    let row := Row.empty.insert "age" (.bool true)
    (∃ slot : Slot String, ofValue written = .ok slot ∧ slot.resolve row = .ok "true"
      ∧ slot.resolveOr row "none" = "true" ∧ resolveWritten row written "none" = "true"
      ∧ ofValue slot.toValue = .ok slot)
      ∧ resolveWritten row unknown true = true := by
  intro written unknown row
  obtain ⟨truth, text, -⟩ := loaded_slots_resolve_as_written
  have hwritten : ofValue written = .ok (.computed (.field "age") : Slot String) :=
    ofValue_eq_ok_iff.2 (.inl ⟨rfl, .field "age", Expression.parse_field rfl, rfl⟩)
  have hunknown : (ofValue unknown : Except ReadError (Slot Bool))
      = .error (.expression (Expression.Cause.unknownKind (some (.string "sum"))).here) := by
    simp [ofValue, unknown, Expression.hasShape, Value.field?, Expression.parse]
  obtain ⟨a, ha, hor, hresolved, hloaded⟩ := text.loaded hwritten row "none"
  obtain rfl : "true" = a := Except.ok.inj ha
  exact ⟨⟨_, hwritten, ha, hor, hresolved, hloaded⟩, truth.refused rfl hunknown row true⟩

end Slot

end GridRules
