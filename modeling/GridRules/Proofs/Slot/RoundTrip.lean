import GridRules.ClassRules
import GridRules.Proofs.Document.RoundTrip
import GridRules.Proofs.Slot.Loading

/-!
# Slots and class rules round trip

A slot that is read from a typed document is read back from what it is written as
(`Slot.stable_decode`), and so are class rules, which are dictionaries of slots.  That the same slot
is loaded again is shown in `GridRules.Proofs.Slot.Loading`; what is left is that its value is
sorted.  For a computed slot this is so because the reader takes the constants of an expression from
the value that it reads, and the wire form of an expression is sorted when its constants are.
-/

namespace GridRules

namespace Expression

lemma sorted_literal {v : Value} (hv : v.Sorted) : (literal v).toValue.Sorted :=
  Value.sorted_of_names ["type", "value"] (by decide) rfl (by simp [hv])

lemma sorted_field (name : String) : (field name).toValue.Sorted :=
  Value.sorted_of_names ["type", "value"] (by decide) rfl (by simp)

lemma sorted_unary (op : Operator) {e : Expression} (he : e.toValue.Sorted) :
    (unary op e).toValue.Sorted :=
  Value.sorted_of_names ["body", "type", "value"] (by decide) rfl (by simp [he])

lemma sorted_binary (op : Operator) {l r : Expression} (hl : l.toValue.Sorted)
    (hr : r.toValue.Sorted) : (binary op l r).toValue.Sorted := by
  have hbody : (Value.object [("left", l.toValue), ("right", r.toValue)]).Sorted :=
    Value.sorted_of_names ["left", "right"] (by decide) rfl (by simp [hl, hr])
  exact Value.sorted_of_names ["body", "type", "value"] (by decide) rfl (by simp [hbody])

/-- An expression that is read from a sorted value has a sorted wire form. -/
theorem sorted_toValue_of_parse {v : Value} {e : Expression} (h : parse v = .ok e)
    (hv : v.Sorted) : e.toValue.Sorted := by
  have hlanguage : InLanguage v := inLanguage_iff.2 ⟨e, h⟩
  induction hlanguage generalizing e with
  | @literal fields kind =>
    rw [parse_literal kind] at h
    obtain rfl := Except.ok.inj h
    cases hvalue : fields.lookup "value" with
    | none => exact sorted_literal .null
    | some w => exact sorted_literal (hv.of_lookup hvalue)
  | fieldText kind value =>
    rw [parse_field kind, parseField, value] at h
    obtain rfl := Except.ok.inj h
    exact sorted_field _
  | fieldNumber kind value =>
    rw [parse_field kind, parseField, value] at h
    obtain rfl := Except.ok.inj h
    exact sorted_field _
  | @negation fields body node operand ih =>
    obtain ⟨b, hb⟩ := inLanguage_iff.1 operand
    rw [parse_negation node, hb] at h
    obtain rfl := Except.ok.inj h
    exact sorted_unary .not (ih hb (hv.of_lookup node.body))
  | @binary fields operands symbol lv rv node known hl hr left right ihl ihr =>
    obtain ⟨op, hsymbol, hop⟩ := exists_ofSymbol?_of_mem known
    obtain ⟨l, hpl⟩ := inLanguage_iff.1 left
    obtain ⟨r, hpr⟩ := inLanguage_iff.1 right
    rw [parse_binary node hsymbol hop, parseSide_of_lookup .left hl, hpl,
      parseSide_of_lookup .right hr, hpr] at h
    obtain rfl := Except.ok.inj h
    have hbody : (Value.object operands).Sorted := hv.of_lookup node.body
    exact sorted_binary op (ihl hpl (hbody.of_lookup hl)) (ihr hpr (hbody.of_lookup hr))

end Expression

namespace Slot

variable {α : Type} [SlotType α] [LawfulSlotType α]

lemma sorted_toValue {v : Value} {slot : Slot α} (h : ofValue v = .ok slot) (hv : v.Sorted) :
    slot.toValue.Sorted := by
  rcases ofValue_eq_ok_iff.1 h with ⟨-, e, he, rfl⟩ | ⟨-, a, ha, rfl⟩
  · exact Expression.sorted_toValue_of_parse he hv
  · rw [toValue, LawfulSlotType.toValue_of_ofLiteral? ha]
    exact hv

/-- A slot that is read from a typed document is read back from what it is written as. -/
theorem stable_decode : Document.Stable decode (toValue : Slot α → Value) := by
  intro d slot hd h
  unfold decode at h
  split at h
  · cases h
  · rename_i v hv
    have hsorted : slot.toValue.Sorted := sorted_toValue h (Document.sorted_of_toValue hd hv)
    refine ⟨hsorted, ?_⟩
    rw [decode, Document.toValue_ofValue hsorted]
    exact ofValue_toValue h

lemma restores_unset : Document.Restores decode toValue (unset : Slot Bool) :=
  ⟨.bool false, rfl⟩

end Slot

namespace ClassRules

lemma stable_decode : Document.Stable decode toValue := Slot.stable_decode.dictionaryOf

lemma restores_empty : Document.Restores decode toValue Dictionary.empty :=
  Document.restores_dictionaryOf (fun _ h => nomatch h)

end ClassRules

end GridRules
