import GridRules.Error
import Mathlib.Tactic.Lemma

/-!
# Positions in a wire form

A fault names the offending node by a path of steps.  Here a path is followed through a JSON value
(`Value.at?`) and a value is changed at the end of a path (`Value.editAt`), so that statements about
faults can speak of the part of the input that a path leads to.

An object answers only by name, so what an edit does is stated by look-ups: `field?_setField` for
the object that is edited, `lookup_insertEntry` for the objects on the way to it.
-/

namespace GridRules

/-- The text of a path: the root, then each step with a point before its name. -/
lemma pathText_eq_join (path : List Step) :
    pathText path = "$" ++ String.join (path.map fun step => "." ++ step.name) := by
  suffices h : ∀ text : String, path.foldl (fun text step => text ++ "." ++ step.name) text
      = text ++ String.join (path.map fun step => "." ++ step.name) from h "$"
  induction path with
  | nil => simp
  | cons step rest ih =>
    intro text
    rw [List.foldl_cons, ih, List.map_cons, String.join_cons, String.append_assoc,
      String.append_assoc, String.append_assoc]

lemma Expression.Fault.path_report (fault : Expression.Fault) :
    fault.report.path = pathText fault.path := by
  unfold Expression.Fault.report
  cases fault.cause <;> rfl

namespace Value

/-- The value that a path leads to, if every step of it names a field that is there. -/
def at? : Value → List Step → Option Value
  | v, [] => some v
  | v, step :: rest => (v.field? step.name).bind fun w => w.at? rest

@[simp] lemma at?_nil (v : Value) : v.at? [] = some v := rfl

@[simp] lemma at?_cons (v : Value) (step : Step) (rest : List Step) :
    v.at? (step :: rest) = (v.field? step.name).bind fun w => w.at? rest := rfl

lemma at?_append (v : Value) (p q : List Step) :
    v.at? (p ++ q) = (v.at? p).bind fun w => w.at? q := by
  induction p generalizing v with
  | nil => rfl
  | cons step rest ih =>
    rw [List.cons_append, at?_cons, at?_cons, Option.bind_assoc]
    exact congrArg _ (funext fun w => ih w)

@[simp] lemma field?_object (fields : List (String × Value)) (name : String) :
    (object fields).field? name = fields.lookup name := rfl

/-- The value with a field set, or without the field when no value is given for it.  Only an object
has fields to change. -/
def setField (name : String) (new : Option Value) : Value → Value
  | .object fields =>
    .object (match new with
      | some w => insertEntry name w fields
      | none => fields.filter fun e => e.1 ≠ name)
  | v => v

lemma lookup_filter_ne (name other : String) (fields : List (String × Value)) :
    (fields.filter fun e => e.1 ≠ name).lookup other
      = if other = name then none else fields.lookup other := by
  induction fields with
  | nil => simp
  | cons e rest ih =>
    obtain ⟨n, v⟩ := e
    by_cases hn : n = name
    · subst hn
      rw [List.filter_cons_of_neg (by simp), ih, lookup_entry]
      split <;> rfl
    · rw [List.filter_cons_of_pos (by simpa using hn), lookup_entry, lookup_entry, ih]
      by_cases ho : other = n
      · rw [if_pos ho, if_pos ho, if_neg (ho ▸ hn)]
      · rw [if_neg ho, if_neg ho]

lemma field?_setField (name other : String) (new : Option Value) (fields : List (String × Value)) :
    ((object fields).setField name new).field? other
      = if other = name then new else fields.lookup other := by
  cases new with
  | none => exact lookup_filter_ne name other fields
  | some w => exact lookup_insertEntry name other w fields

/-- The value with an edit made where a path leads to; a path that leads nowhere changes nothing. -/
def editAt (edit : Value → Value) : List Step → Value → Value
  | [], v => edit v
  | step :: rest, v =>
    match v.field? step.name with
    | some w => v.setField step.name (some (editAt edit rest w))
    | none => v

@[simp] lemma editAt_nil (edit : Value → Value) (v : Value) : v.editAt edit [] = edit v := rfl

lemma editAt_cons {edit : Value → Value} {step : Step} {rest : List Step}
    {fields : List (String × Value)} {w : Value} (h : fields.lookup step.name = some w) :
    (object fields).editAt edit (step :: rest)
      = .object (insertEntry step.name (w.editAt edit rest) fields) := by
  simp only [editAt, field?_object, h, setField]

/-- After an edit the path leads to the edited value. -/
lemma at?_editAt (edit : Value → Value) {v s : Value} {path : List Step}
    (h : v.at? path = some s) : (v.editAt edit path).at? path = some (edit s) := by
  induction path generalizing v with
  | nil =>
    obtain rfl : v = s := Option.some.inj h
    rfl
  | cons step rest ih =>
    cases v with
    | object fields =>
      obtain ⟨w, hw, hs⟩ := Option.bind_eq_some_iff.1 h
      rw [editAt_cons hw, at?_cons, field?_object, lookup_insertEntry, if_pos rfl,
        Option.bind_some]
      exact ih hs
    | _ => cases h

end Value

end GridRules
