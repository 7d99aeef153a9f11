import GridRules.Element
import Mathlib.Data.List.Induction
import Mathlib.Tactic.Lemma

/-!
# The copy that the host keeps

A host creates an element, calls it, and after the first initialisation keeps a copy of its
attributes: the copy starts as the attributes that were handed over, and every property that is
handed on later is set in it (`hear`).  Neither knows more of the other than the answers.

What one call does is said once, for changes by `Element.attributeChanged_eq_ok_iff`: the property
is the spelling that was observed, its value is set, and the answer depends on the property and on
whether the grid was initialised.  A call that fails does nothing (`ElementCall.perform_eq`).  From
this follow what a call preserves (`Session.Sound.after`) and what every run does: the keys of the
attributes are observed spellings, and copy and attributes agree on all properties of the grid.
-/

namespace GridRules

namespace Element

variable {e after : Element} {name property : String} {text : Option String}
  {answer : ElementChange} {v : Value}

/-! ## Names of properties -/

lemma mem_observed_of_propertyName? (h : e.propertyName? name = some property) :
    property ∈ e.observed :=
  List.mem_reverse.1 (List.mem_of_find?_eq_some h)

/-- The property of a name is the property of its own spelling. -/
lemma propertyName?_self (h : e.propertyName? name = some property) :
    e.propertyName? property = some property := by
  rw [propertyName?] at h ⊢
  have hsame : Text.lowercase property = Text.lowercase name := by
    simpa using List.find?_some h
  rw [hsame]
  exact h

/-- The properties of the element come last, so no spelling of the grid hides them. -/
lemma propertyName?_elementProperty {properties : List String}
    (hobserved : e.observed = (new properties).observed) (h : property ∈ elementProperties) :
    e.propertyName? property = some property := by
  -- the last property does not hide the one before it
  have hdistinct : (Text.lowercase sizeToFitProperty == Text.lowercase disableResizeProperty)
      = false := by
    decide +kernel
  have hreverse : e.observed.reverse = sizeToFitProperty :: disableResizeProperty
      :: (properties.filter (· ≠ gridOptionsProperty)).reverse := by
    rw [hobserved, new, List.reverse_append]
    rfl
  rw [propertyName?, hreverse]
  rcases List.mem_cons.1 h with rfl | h
  · rw [List.find?_cons, hdistinct, List.find?_cons, beq_self_eq_true]
  · obtain rfl := List.mem_singleton.1 h
    rw [List.find?_cons, beq_self_eq_true]

/-! ## A change of an attribute -/

/-- No text and an empty one are null, any other text is the value that it writes. -/
lemma attributeValue_eq_ok_iff : attributeValue text = .ok v
    ↔ (text = none ∨ text = some "") ∧ v = .null
      ∨ ∃ written ≠ "", text = some written ∧ Json.parse written = .ok v := by
  unfold attributeValue
  cases text with
  | none => simp [eq_comm]
  | some written =>
    by_cases hempty : written = ""
    · simp [hempty, eq_comm]
    · simp [hempty]

/-- What the host has to do when a property gets a value. -/
def answerTo (e : Element) (property : String) (v : Value) : ElementChange :=
  if property ∈ elementProperties then .reprocess
  else if e.initialised then .property property v
  else .stored

/-- A change is one of three: no property has the name, its text is no value, or the value is set
and answered. -/
lemma attributeChanged_eq (e : Element) (name : String) (text : Option String) :
    e.attributeChanged name text =
      match e.propertyName? name, attributeValue text with
      | none, _ => .error (.configuration (.unknownAttribute name))
      | some _, .error reason => .error (.json reason)
      | some property, .ok v =>
        .ok ({ e with attributes := e.attributes.insert property v }, e.answerTo property v) := by
  unfold attributeChanged answerTo
  cases e.propertyName? name with
  | none => rfl
  | some property =>
    cases attributeValue text with
    | error reason => rfl
    | ok v =>
      by_cases hown : property ∈ elementProperties
      · simp only [if_pos hown]
      · cases e.initialised <;> simp [hown]

/-- A change that succeeds sets the value of one observed property. -/
lemma attributeChanged_eq_ok_iff : e.attributeChanged name text = .ok (after, answer)
    ↔ ∃ property v, e.propertyName? name = some property ∧ attributeValue text = .ok v
      ∧ after = { e with attributes := e.attributes.insert property v }
      ∧ answer = e.answerTo property v := by
  rw [attributeChanged_eq]
  cases e.propertyName? name with
  | none => simp
  | some property =>
    cases attributeValue text with
    | error reason => simp
    | ok v => simp [eq_comm]

lemma answerTo_eq_property_iff {other : String} {w : Value} :
    e.answerTo property v = .property other w
      ↔ property ∉ elementProperties ∧ e.initialised = true ∧ property = other ∧ v = w := by
  unfold answerTo
  by_cases hown : property ∈ elementProperties
  · simp [hown]
  · cases e.initialised <;> simp [hown]

end Element

/-! ## Calls -/

/-- A call on an element. -/
inductive ElementCall where
  /-- An attribute changes. -/
  | change (name : String) (text : Option String)
  /-- The settings of a grid are applied. -/
  | apply (settings : ElementSettings)
  /-- The grid is handed the attributes. -/
  | initialise
deriving DecidableEq

/-- What an element answers to a call. -/
inductive ElementAnswer where
  /-- What a change asks of the host. -/
  | changed (change : ElementChange)
  /-- The settings were applied. -/
  | applied
  /-- The attributes as they are. -/
  | attributes (attributes : Dictionary Value)
deriving DecidableEq

namespace ElementCall

/-- What the functions of an element answer to a call. -/
def outcome (e : Element) : ElementCall → Except Error (Element × ElementAnswer)
  | change name text => (e.attributeChanged name text).map fun (after, answer) =>
    (after, .changed answer)
  | apply settings => .ok (e.applySettings settings, .applied)
  | initialise => .ok (e.initialise, .attributes e.initialise.attributes)

/-- Records a change in an element that is kept in a variable.  An error would not undo what was
assigned before it. -/
def record (name : String) (text : Option String) :
    ExceptT Error (StateM Element) ElementChange := do
  let some property := (← get).propertyName? name
    | throw (.configuration (.unknownAttribute name))
  let v ← match Element.attributeValue text with
    | .ok v => pure v
    | .error reason => throw (.json reason)
  modify fun e => { e with attributes := e.attributes.insert property v }
  return (← get).answerTo property v

/-- A call on an element that is kept in a variable. -/
def perform : ElementCall → ExceptT Error (StateM Element) ElementAnswer
  | change name text => return .changed (← record name text)
  | apply settings => do
    modify (·.applySettings settings)
    return .applied
  | initialise => do
    modify (·.initialise)
    return .attributes (← get).attributes

/-- A record ends as the change of an attribute does, and one that fails assigns nothing. -/
lemma run_record (e : Element) (name : String) (text : Option String) :
    (record name text).run.run e =
      match e.attributeChanged name text with
      | .ok (after, answer) => (.ok answer, after)
      | .error error => (.error error, e) := by
  have hread : (ExceptT.run (get : ExceptT Error (StateM Element) Element)).run e
      = pure (.ok e, e) := rfl
  rw [Element.attributeChanged_eq, record, ExceptT.run_bind, StateT.run_bind, hread, pure_bind]
  cases hname : e.propertyName? name with
  | none => simp only [hname]; rfl
  | some property =>
    cases htext : Element.attributeValue text with
    | error reason => simp only [hname]; rfl
    | ok v => simp only [hname]; rfl

/-- A call ends with the element and the answer of the functions, or with their error and the
element as it was. -/
lemma perform_eq (e : Element) (call : ElementCall) : call.perform.run.run e =
    match call.outcome e with
    | .ok (after, answer) => (.ok answer, after)
    | .error error => (.error error, e) := by
  cases call with
  | change name text =>
    rw [perform, ExceptT.run_bind, StateT.run_bind, run_record, outcome]
    cases e.attributeChanged name text with
    | error error => rfl
    | ok result => rfl
  | apply settings => rfl
  | initialise => rfl

/-- Only a change hands on a property, and only a property of the grid. -/
lemma not_mem_of_outcome_eq_property {e after : Element} {call : ElementCall} {property : String}
    {v : Value} (h : call.outcome e = .ok (after, .changed (.property property v))) :
    property ∉ elementProperties := by
  cases call with
  | change name text =>
    rw [outcome] at h
    cases hchange : e.attributeChanged name text with
    | error _ =>
      rw [hchange] at h
      cases h
    | ok result =>
      obtain ⟨changed, answer⟩ := result
      rw [hchange] at h
      obtain ⟨_, _, -, -, -, rfl⟩ := Element.attributeChanged_eq_ok_iff.1 hchange
      have hanswer := ElementAnswer.changed.inj (Prod.mk.inj (Except.ok.inj h)).2
      obtain ⟨hown, -, rfl, -⟩ := Element.answerTo_eq_property_iff.1 hanswer
      exact hown
  | apply settings => cases (Prod.mk.inj (Except.ok.inj h)).2
  | initialise => cases (Prod.mk.inj (Except.ok.inj h)).2

end ElementCall

/-! ## Element and host -/

/-- An element and the copy of its attributes that the host keeps. -/
structure Session where
  /-- The element. -/
  element : Element
  /-- The copy, once the host was handed the attributes. -/
  copy : Option (Dictionary Value)

namespace Session

/-- The copy after an answer: the first attributes that are handed over start it, and a property
that is handed on is set in it. -/
def hear (copy : Option (Dictionary Value)) : ElementAnswer → Option (Dictionary Value)
  | .attributes attributes => copy <|> some attributes
  | .changed (.property property v) => copy.map (·.insert property v)
  | .changed .stored => copy
  | .changed .reprocess => copy
  | .applied => copy

/-- The session after a call; the host hears nothing of a call that fails. -/
def after (s : Session) (call : ElementCall) : Session :=
  match call.perform.run.run s.element with
  | (.ok answer, e) => ⟨e, hear s.copy answer⟩
  | (.error _, e) => ⟨e, s.copy⟩

/-- The session after calls on a new element. -/
def run (properties : List String) (calls : List ElementCall) : Session :=
  calls.foldl after ⟨Element.new properties, none⟩

variable {s : Session} {properties : List String} {calls : List ElementCall}

lemma after_eq (s : Session) (call : ElementCall) : s.after call =
    match call.outcome s.element with
    | .ok (e, answer) => ⟨e, hear s.copy answer⟩
    | .error _ => s := by
  rw [after, ElementCall.perform_eq]
  cases call.outcome s.element <;> rfl

@[simp] lemma run_append_singleton (properties : List String) (calls : List ElementCall)
    (call : ElementCall) :
    run properties (calls ++ [call]) = (run properties calls).after call := by
  rw [run, List.foldl_append]
  rfl

/-- What every session for the properties of a grid keeps to. -/
structure Sound (properties : List String) (s : Session) : Prop where
  /-- The observed properties are those of the start. -/
  observed : s.element.observed = (Element.new properties).observed
  /-- What is stored is stored under the spelling that was observed. -/
  canonical : ∀ key ∈ s.element.attributes.keys, s.element.propertyName? key = some key
  /-- The host has its copy as soon as changes are handed on. -/
  initialised : s.element.initialised = s.copy.isSome
  /-- The copy agrees with the attributes on the properties of the grid. -/
  agrees : ∀ copy, s.copy = some copy → ∀ property ∉ elementProperties,
    copy.get? property = s.element.attribute? property

lemma sound_new (properties : List String) : Sound properties ⟨Element.new properties, none⟩ where
  observed := rfl
  canonical := fun _ h => absurd h List.not_mem_nil
  initialised := rfl
  agrees := fun _ h => nomatch h

/-- A value that is set under an observed spelling keeps the keys observed spellings. -/
lemma canonical_insert {e : Element} {attributes : Dictionary Value} {property : String} {v : Value}
    (h : ∀ key ∈ attributes.keys, e.propertyName? key = some key)
    (hproperty : e.propertyName? property = some property) :
    ∀ key ∈ (attributes.insert property v).keys, e.propertyName? key = some key := by
  intro key hkey
  obtain ⟨entry, hentry, rfl⟩ := List.mem_map.1 hkey
  rcases mem_insertEntry hentry with rfl | hentry
  · exact hproperty
  · exact h entry.1 (List.mem_map_of_mem hentry)

/-- A host that has its copy exactly when changes are handed on sets what is set, the properties of
the element aside. -/
lemma hear_answerTo {e : Element} {copy : Option (Dictionary Value)} {property : String} {v : Value}
    (h : e.initialised = copy.isSome) : hear copy (.changed (e.answerTo property v))
      = if property ∈ elementProperties then copy else copy.map (·.insert property v) := by
  unfold Element.answerTo
  by_cases hown : property ∈ elementProperties
  · simp only [if_pos hown, hear]
  · cases copy with
    | none => simp [hown, h, hear]
    | some copy => simp [hown, h, hear]

lemma Sound.change {name : String} {text : Option String} {e : Element} {answer : ElementChange}
    (h : Sound properties s) (hchange : s.element.attributeChanged name text = .ok (e, answer)) :
    Sound properties ⟨e, hear s.copy (.changed answer)⟩ := by
  obtain ⟨property, v, hname, -, rfl, rfl⟩ := Element.attributeChanged_eq_ok_iff.1 hchange
  rw [hear_answerTo h.initialised]
  refine ⟨h.observed, canonical_insert h.canonical (Element.propertyName?_self hname), ?_, ?_⟩
  · rw [h.initialised]
    split
    · rfl
    · exact Option.isSome_map.symm
  · intro copy hcopy other hother
    rw [Element.attribute?, Dictionary.get?_insert]
    -- a property of the element is set in the attributes alone, any other on both sides
    split at hcopy
    · rename_i hown
      rw [if_neg (ne_of_mem_of_not_mem hown hother).symm]
      exact h.agrees copy hcopy other hother
    · obtain ⟨old, hold, rfl⟩ := Option.map_eq_some_iff.1 hcopy
      rw [Dictionary.get?_insert, h.agrees old hold other hother, Element.attribute?]

lemma Sound.apply (h : Sound properties s) (settings : ElementSettings) :
    Sound properties ⟨s.element.applySettings settings, s.copy⟩ where
  observed := h.observed
  canonical :=
    have hown {property : String} : property ∈ elementProperties →
        s.element.propertyName? property = some property :=
      Element.propertyName?_elementProperty h.observed
    canonical_insert (canonical_insert h.canonical (hown (by decide))) (hown (by decide))
  initialised := h.initialised
  agrees := by
    intro copy hcopy other hother
    have hne {property : String} (hown : property ∈ elementProperties) : other ≠ property :=
      (ne_of_mem_of_not_mem hown hother).symm
    rw [h.agrees copy hcopy other hother, Element.attribute?, Element.attribute?,
      Element.applySettings, Dictionary.get?_insert, if_neg (hne (by decide)),
      Dictionary.get?_insert, if_neg (hne (by decide))]

lemma Sound.initialise (h : Sound properties s) :
    Sound properties ⟨s.element.initialise, hear s.copy (.attributes s.element.attributes)⟩ where
  observed := h.observed
  canonical := h.canonical
  initialised := by
    cases s.copy <;> rfl
  agrees := by
    intro copy hcopy other hother
    -- the first attributes start the copy, later ones are not needed
    cases hold : s.copy with
    | none =>
      rw [hold] at hcopy
      cases hcopy
      rfl
    | some old =>
      rw [hold] at hcopy
      cases hcopy
      exact h.agrees copy hold other hother

/-- One call keeps a session sound. -/
theorem Sound.after (h : Sound properties s) (call : ElementCall) :
    Sound properties (s.after call) := by
  rw [after_eq]
  cases call with
  | change name text =>
    rw [ElementCall.outcome]
    cases hchange : s.element.attributeChanged name text with
    | error _ => exact h
    | ok result => exact h.change hchange
  | apply settings => exact h.apply settings
  | initialise => exact h.initialise

/-- Every session is sound. -/
theorem sound_run (properties : List String) (calls : List ElementCall) :
    Sound properties (run properties calls) := by
  induction calls using List.reverseRecOn with
  | nil => exact sound_new properties
  | append_singleton calls call ih =>
    rw [run_append_singleton]
    exact ih.after call

lemma isSome_hear_changed (copy : Option (Dictionary Value)) (answer : ElementChange) :
    (hear copy (.changed answer)).isSome = copy.isSome := by
  cases answer with
  | property name value => exact Option.isSome_map
  | stored => rfl
  | reprocess => rfl

lemma isSome_copy_after (s : Session) (call : ElementCall) :
    (s.after call).copy.isSome = true ↔ s.copy.isSome = true ∨ call = .initialise := by
  rw [after_eq]
  cases call with
  | change name text =>
    rw [ElementCall.outcome]
    cases s.element.attributeChanged name text with
    | error _ => simp [Except.map]
    | ok result => simp [Except.map, isSome_hear_changed]
  | apply settings => simp [ElementCall.outcome, hear]
  | initialise => cases s.copy <;> simp [ElementCall.outcome, hear]

/-- The host has its copy once it initialised the element. -/
lemma isSome_copy_run (properties : List String) (calls : List ElementCall) :
    (run properties calls).copy.isSome = true ↔ .initialise ∈ calls := by
  induction calls using List.reverseRecOn with
  | nil => simp [run]
  | append_singleton calls call ih =>
    rw [run_append_singleton, isSome_copy_after, ih]
    simp [eq_comm]

/-- The answer to a value depends on its property and on whether the grid was initialised. -/
lemma answerTo_run (properties : List String) (calls : List ElementCall) (property : String)
    (v : Value) : (run properties calls).element.answerTo property v
      = if property ∈ elementProperties then .reprocess
        else if .initialise ∈ calls then .property property v
        else .stored := by
  have hinitialised :
      (run properties calls).element.initialised = true ↔ .initialise ∈ calls := by
    rw [(sound_run properties calls).initialised, isSome_copy_run]
  rw [Element.answerTo, if_congr hinitialised rfl rfl]

end Session

/-- The copy of the host never drifts: whatever calls a new element got,
* the next call ends as the functions of the element say: the host hears the answer of a call that
  succeeds, and a call that fails leaves the element as it was and the host with what it had,
* every key of the attributes is the spelling of a property that was observed,
* after the first initialisation the host has a copy that agrees with the attributes on the
  properties of the grid,
* a change succeeds exactly when a property has the name and the text is a value, and sets this
  one value; it is answered by a reprocess for a property of the element, and handed on for any
  other once the element was initialised,
* settings set the two properties of the element and no other,
* no answer hands on a property of the element, and
* the element hands over the attributes as they are each time that it is initialised. -/
theorem host_copy_never_drifts (properties : List String) (calls : List ElementCall) :
    let s := Session.run properties calls
    (∀ call : ElementCall,
      (∀ after answer, call.outcome s.element = .ok (after, answer) →
        call.perform.run.run s.element = (.ok answer, after)
          ∧ s.after call = ⟨after, Session.hear s.copy answer⟩) ∧
      ∀ error, call.outcome s.element = .error error →
        call.perform.run.run s.element = (.error error, s.element) ∧ s.after call = s) ∧
    s.element.observed = properties.filter (· ≠ gridOptionsProperty) ++ elementProperties ∧
    (∀ key ∈ s.element.attributes.keys,
      key ∈ s.element.observed ∧ s.element.propertyName? key = some key) ∧
    (.initialise ∈ calls → ∃ copy, s.copy = some copy ∧
      ∀ property ∉ elementProperties, copy.get? property = s.element.attribute? property) ∧
    (∀ name text after answer, s.element.attributeChanged name text = .ok (after, answer) ↔
      ∃ property v, s.element.propertyName? name = some property
        ∧ ((text = none ∨ text = some "") ∧ v = .null
          ∨ ∃ written ≠ "", text = some written ∧ Json.parse written = .ok v)
        ∧ after = { s.element with attributes := s.element.attributes.insert property v }
        ∧ answer = if property ∈ elementProperties then .reprocess
          else if .initialise ∈ calls then .property property v
          else .stored) ∧
    (∀ (settings : ElementSettings) property,
      (s.element.applySettings settings).attribute? property
        = if property = disableResizeProperty then some (.bool settings.disableResizeOnScroll)
          else if property = sizeToFitProperty then
            some (.bool settings.sizeToFitAfterFirstDataRendered)
          else s.element.attribute? property) ∧
    (∀ (call : ElementCall) property v after,
      call.outcome s.element = .ok (after, .changed (.property property v)) →
      property ∉ elementProperties) ∧
    ElementCall.initialise.outcome s.element
      = .ok (s.element.initialise, .attributes s.element.attributes) := by
  intro s
  have hsound : s.Sound properties := Session.sound_run properties calls
  refine ⟨fun call => ⟨fun after answer h => ?_, fun error h => ?_⟩, hsound.observed,
    fun key hkey => ?_, fun hmem => ?_, fun name text after answer => ?_,
    fun settings property => ?_, fun _ _ _ _ => ElementCall.not_mem_of_outcome_eq_property, rfl⟩
  · rw [ElementCall.perform_eq, Session.after_eq, h]
    exact ⟨rfl, rfl⟩
  · rw [ElementCall.perform_eq, Session.after_eq, h]
    exact ⟨rfl, rfl⟩
  · have hname := hsound.canonical key hkey
    exact ⟨Element.mem_observed_of_propertyName? hname, hname⟩
  · obtain ⟨copy, hcopy⟩ := Option.isSome_iff_exists.1
      ((Session.isSome_copy_run properties calls).2 hmem)
    exact ⟨copy, hcopy, hsound.agrees copy hcopy⟩
  · have hanswer := Session.answerTo_run properties calls
    rw [Element.attributeChanged_eq_ok_iff]
    simp only [Element.attributeValue_eq_ok_iff, s, hanswer]
  · rw [Element.attribute?, Element.applySettings, Dictionary.get?_insert, Dictionary.get?_insert,
      Element.attribute?]

/-- A name in any case, a text that is no value, and a property of the element that changes after
the copy was made: copy and attributes differ in this property alone. -/
theorem host_copy_of_settings_and_faulty_text :
    let calls : List ElementCall := [.change "ROWDATA" (some "true"), .apply ⟨true, false⟩,
      .initialise, .change "rowdata" (some "\x7b"), .change "RowData" (some ""),
      .change "sizeToFitAfterFirstDataRendered" (some "false")]
    let s := Session.run ["rowData", gridOptionsProperty] calls
    .initialise ∈ calls ∧ "rowData" ∉ elementProperties ∧
    (∃ copy, s.copy = some copy ∧ copy.get? "rowData" = some .null
      ∧ copy.get? sizeToFitProperty = some (.bool true)) ∧
    s.element.attribute? "rowData" = some .null ∧
    s.element.attribute? sizeToFitProperty = some (.bool false) := by
  intro calls s
  obtain ⟨-, -, -, hcopy, -⟩ := host_copy_never_drifts ["rowData", gridOptionsProperty] calls
  have hown : "rowData" ∉ elementProperties := by decide
  have hset : s.element.attribute? "rowData" = some .null := by decide +kernel
  obtain ⟨copy, hcopied, hagrees⟩ := hcopy (by decide)
  refine ⟨by decide, hown, ⟨copy, hcopied, (hagrees _ hown).trans hset, ?_⟩, hset,
    by decide +kernel⟩
  have hsized : s.copy.bind (·.get? sizeToFitProperty) = some (.bool true) := by decide +kernel
  rwa [hcopied] at hsized

end GridRules
