import GridRules.Date.Filter
import GridRules.Proofs.Value.NumberLiteral
import Mathlib.Data.List.Induction

/-!
# Runs of a date filter

A filter is kept in a variable and changed by calls that set, restore or clear its day
(`FilterCall.perform`).  What a call does is the same for every filter: either it sets the day, to a
date or to none (`FilterCall.Sets`), or it leaves the whole filter as it was, because there was no
model to restore or because its text could not be read (`FilterCall.outcome_cases`).

From this one step follow the runs of any length: the column and the range field stay, and the day
is the one of the last call that set it (`DateFilter.run_eq`).  Which rows pass is told by the day
and by the ranges that can be read in a cell (`DateRange.ReadIn`).
-/

namespace GridRules

/-! ## Calls -/

/-- A call that changes a filter. -/
inductive FilterCall where
  /-- Sets the day that a text writes. -/
  | setDate (input : Option String)
  /-- Restores the day of a model. -/
  | restore (model : Option FilterModel)
  /-- Removes the day. -/
  | clear

namespace FilterCall

/-- What the functions of a filter answer to a call. -/
def outcome (f : DateFilter) : FilterCall → Except DateError DateFilter
  | setDate input => f.setDate input
  | restore model => f.restore model
  | clear => .ok f.clear

/-- The day that an input asks for, if the input can be read. -/
def dayOf (input : Option String) : Except DateError (Option Date) :=
  match input with
  | none => .ok none
  | some text => if Text.isBlank text.toList then .ok none else (Date.ofText text).map some

/-- Assigns the day that an input asks for to a filter that is kept in a variable.  An error would
not undo what was assigned before it. -/
def assign (input : Option String) : ExceptT DateError (StateM DateFilter) Unit := do
  let day ← ofExcept (dayOf input)
  modify fun f => { f with date := day }

/-- A call on a filter that is kept in a variable. -/
def perform : FilterCall → ExceptT DateError (StateM DateFilter) Unit
  | setDate input => assign input
  | restore none => pure ()
  | restore (some model) => assign (some model.filterDate)
  | clear => modify DateFilter.clear

/-- The call sets the day, to a date or to none. -/
inductive Sets : FilterCall → Option Date → Prop
  /-- The day is removed. -/
  | clear : Sets .clear none
  /-- Without an input there is no day. -/
  | absent : Sets (.setDate none) none
  /-- Blank input removes the day. -/
  | blank {text : String} (h : Text.isBlank text.toList = true) : Sets (.setDate (some text)) none
  /-- Input that can be read sets the day that it writes. -/
  | date {text : String} {d : Date} (h : Date.ofText text = .ok d) :
      Sets (.setDate (some text)) (some d)
  /-- A model is restored by its text. -/
  | model {model : FilterModel} {day : Option Date}
      (h : Sets (.setDate (some model.filterDate)) day) : Sets (.restore (some model)) day

/-- The call sets no day. -/
def SetsNothing (call : FilterCall) : Prop := ∀ day, ¬ call.Sets day

end FilterCall

/-- Blank text writes no date. -/
lemma Date.ofText_of_isBlank {text : String} (h : Text.isBlank text.toList = true) :
    Date.ofText text = .error (.invalidDate "") := by
  rw [ofText, ofChars, Text.trim_eq_nil_iff.2 h]
  rfl

namespace FilterCall

/-! ## One call -/

lemma setDate_eq (f : DateFilter) (input : Option String) :
    f.setDate input = (dayOf input).map fun day => { f with date := day } := by
  cases input with
  | none => rfl
  | some text =>
    rw [DateFilter.setDate, dayOf]
    split
    · rfl
    · cases Date.ofText text <;> rfl

/-- A call ends with the filter that the functions answer, or with their error and the filter as it
was. -/
theorem perform_eq (f : DateFilter) (call : FilterCall) : call.perform.run.run f =
    match call.outcome f with
    | .ok g => (.ok (), g)
    | .error e => (.error e, f) := by
  have hassign : ∀ input, (assign input).run.run f =
      match f.setDate input with
      | .ok g => (.ok (), g)
      | .error e => (.error e, f) := by
    intro input
    rw [setDate_eq, assign]
    cases dayOf input <;> rfl
  cases call with
  | setDate input => exact hassign input
  | restore model =>
    cases model with
    | none => rfl
    | some model => exact hassign (some model.filterDate)
  | clear => rfl

lemma dayOf_of_sets {input : Option String} {day : Option Date} (h : Sets (.setDate input) day) :
    dayOf input = .ok day := by
  cases h with
  | absent => rfl
  | blank h => rw [dayOf, if_pos h]
  | @date text d h =>
    have hblank : ¬ Text.isBlank text.toList = true := by
      intro hb
      rw [Date.ofText_of_isBlank hb] at h
      cases h
    rw [dayOf, if_neg hblank, h]
    rfl

lemma outcome_of_sets {call : FilterCall} {day : Option Date} (h : call.Sets day)
    (f : DateFilter) : call.outcome f = .ok { f with date := day } := by
  cases h with
  | clear => rfl
  | absent => rfl
  | blank h => rw [outcome, setDate_eq, dayOf_of_sets (.blank h)]; rfl
  | date h => rw [outcome, setDate_eq, dayOf_of_sets (.date h)]; rfl
  | model h => rw [outcome, DateFilter.restore, setDate_eq, dayOf_of_sets h]; rfl

/-- An input sets a day or is refused, whatever the filter is. -/
lemma setDate_cases (input : Option String) : (∃ day, Sets (.setDate input) day)
    ∨ ∃ e, ∀ f : DateFilter, f.setDate input = .error e := by
  cases input with
  | none => exact .inl ⟨none, .absent⟩
  | some text =>
    by_cases hb : Text.isBlank text.toList = true
    · exact .inl ⟨none, .blank hb⟩
    · cases hd : Date.ofText text with
      | ok d => exact .inl ⟨some d, .date hd⟩
      | error e =>
        refine .inr ⟨e, fun f => ?_⟩
        rw [DateFilter.setDate]
        simp only [hb, hd]
        rfl

/-- A call sets a day, or there was no model to restore, or it is refused. -/
theorem outcome_cases (call : FilterCall) : (∃ day, call.Sets day)
    ∨ call = .restore none ∨ ∃ e, ∀ f, call.outcome f = .error e := by
  cases call with
  | setDate input => exact (setDate_cases input).imp_right .inr
  | restore model =>
    cases model with
    | none => exact .inr (.inl rfl)
    | some model =>
      rcases setDate_cases (some model.filterDate) with ⟨day, h⟩ | h
      · exact .inl ⟨day, .model h⟩
      · exact .inr (.inr h)
  | clear => exact .inl ⟨none, .clear⟩

/-- To set a day is to answer every filter with the same filter on that day. -/
theorem sets_iff {call : FilterCall} {day : Option Date} :
    call.Sets day ↔ ∀ f, call.outcome f = .ok { f with date := day } := by
  constructor
  · exact fun h f => outcome_of_sets h f
  · intro h
    rcases call.outcome_cases with ⟨other, hs⟩ | rfl | ⟨e, he⟩
    · have hboth := (outcome_of_sets hs (.new "" none)).symm.trans (h _)
      obtain rfl : other = day := congrArg DateFilter.date (Except.ok.inj hboth)
      exact hs
    · -- without a model the day stays, so it cannot be the same for two filters on different days
      have hnone : none = day := congrArg DateFilter.date (Except.ok.inj (h (.new "" none)))
      have hsome : some (⟨0, 1, 1, by decide⟩ : Date) = day :=
        congrArg DateFilter.date (Except.ok.inj (h ⟨"", none, some ⟨0, 1, 1, by decide⟩⟩))
      cases hnone.trans hsome.symm
    · have hboth := (he (.new "" none)).symm.trans (h _)
      cases hboth

lemma setsNothing_of_error {call : FilterCall} {f : DateFilter} {e : DateError}
    (h : call.outcome f = .error e) : call.SetsNothing := by
  intro day hs
  rw [outcome_of_sets hs f] at h
  cases h

lemma setsNothing_restore_none : SetsNothing (.restore none) := by
  intro day h
  cases h

end FilterCall

/-! ## Runs -/

namespace DateFilter

/-- The filter after a call. -/
def after (f : DateFilter) (call : FilterCall) : DateFilter := (call.perform.run.run f).2

/-- The filter after some calls, one after the other. -/
def run (f : DateFilter) (calls : List FilterCall) : DateFilter := calls.foldl after f

lemma after_of_ok {f g : DateFilter} {call : FilterCall} (h : call.outcome f = .ok g) :
    f.after call = g := by
  rw [after, FilterCall.perform_eq, h]

lemma after_of_error {f : DateFilter} {call : FilterCall} {e : DateError}
    (h : call.outcome f = .error e) : f.after call = f := by
  rw [after, FilterCall.perform_eq, h]

/-- One call sets the day and nothing else, or it changes nothing. -/
lemma after_cases (f : DateFilter) (call : FilterCall) :
    (∃ day, call.Sets day ∧ f.after call = { f with date := day })
      ∨ call.SetsNothing ∧ f.after call = f := by
  rcases call.outcome_cases with ⟨day, h⟩ | rfl | ⟨e, h⟩
  · exact .inl ⟨day, h, after_of_ok (FilterCall.outcome_of_sets h f)⟩
  · exact .inr ⟨FilterCall.setsNothing_restore_none, rfl⟩
  · exact .inr ⟨FilterCall.setsNothing_of_error (h f), after_of_error (h f)⟩

/-- The day is the one that the calls leave when it was `start` before them: that of the last call
which sets one, or `start` when none does. -/
inductive LeavesDay (start : Option Date) : List FilterCall → Option Date → Prop
  /-- No call sets a day. -/
  | kept {calls : List FilterCall} (h : ∀ call ∈ calls, call.SetsNothing) :
      LeavesDay start calls start
  /-- A call sets the day and no later one does. -/
  | set {before after : List FilterCall} {call : FilterCall} {day : Option Date}
      (h : call.Sets day) (hafter : ∀ later ∈ after, later.SetsNothing) :
      LeavesDay start (before ++ call :: after) day

lemma LeavesDay.concat {start day : Option Date} {calls : List FilterCall} {call : FilterCall}
    (h : LeavesDay start calls day) (hcall : call.SetsNothing) :
    LeavesDay start (calls ++ [call]) day := by
  have hlast : ∀ {before : List FilterCall}, (∀ c ∈ before, c.SetsNothing) →
      ∀ c ∈ before ++ [call], c.SetsNothing := by
    intro before hbefore
    exact List.forall_mem_append.2 ⟨hbefore, List.forall_mem_singleton.2 hcall⟩
  cases h with
  | kept h => exact .kept (hlast h)
  | set h hafter =>
    rw [List.append_assoc]
    exact .set h (hlast hafter)

/-- A run changes the day only, to the one that its calls leave. -/
theorem run_eq (f : DateFilter) (calls : List FilterCall) :
    ∃ day, LeavesDay f.date calls day ∧ f.run calls = { f with date := day } := by
  -- the last call decides, so the induction takes the calls from the end
  induction calls using List.reverseRecOn with
  | nil => exact ⟨f.date, .kept (by simp), rfl⟩
  | append_singleton calls call ih =>
    obtain ⟨day, hday, hrun⟩ := ih
    have hstep : f.run (calls ++ [call]) = (f.run calls).after call := by
      rw [run, List.foldl_append]
      rfl
    rw [hstep, hrun]
    rcases after_cases { f with date := day } call with ⟨next, hs, hafter⟩ | ⟨hn, hafter⟩
    · exact ⟨next, .set hs (by simp), hafter⟩
    · exact ⟨day, hday.concat hn, hafter⟩

end DateFilter

/-! ## The rows that pass -/

/-- A range that can be read in the value of a cell. -/
inductive DateRange.ReadIn : Value → DateRange → Prop
  /-- An entry of a text, between its commas. -/
  | entry {s : String} {entry : List Char} {range : DateRange}
      (hmem : entry ∈ s.toList.splitOn ',') (hblank : Text.isBlank entry = false)
      (h : ofEntry entry = .ok range) : ReadIn (.string s) range
  /-- A pair of texts in a list. -/
  | pair {items : List Value} {first last : String} {range : DateRange}
      (hmem : .array [.string first, .string last] ∈ items)
      (hfirst : Date.ofText first = .ok range.first) (hlast : Date.ofText last = .ok range.last) :
      ReadIn (.array items) range

lemma mem_successes_iff {ε α : Type} {results : List (Except ε α)} {a : α} :
    a ∈ successes results ↔ .ok a ∈ results := by
  rw [successes, List.mem_filterMap]
  constructor
  · rintro ⟨result, hmem, h⟩
    cases result with
    | error e => cases h
    | ok b =>
      obtain rfl := Option.some.inj h
      exact hmem
  · intro h
    exact ⟨.ok a, h, rfl⟩

namespace DateRange

lemma ofBounds_eq_ok_iff {first last : List Char} {range : DateRange} :
    ofBounds first last = .ok range
      ↔ Date.ofChars first = .ok range.first ∧ Date.ofChars last = .ok range.last := by
  unfold ofBounds
  cases Date.ofChars first with
  | error e => simp
  | ok a =>
    cases Date.ofChars last with
    | error e => simp [Except.map]
    | ok b =>
      obtain ⟨c, d⟩ := range
      simp [Except.map]

lemma ofPair_eq_ok_iff {pair : Value} {range : DateRange} : ofPair pair = .ok range
    ↔ ∃ first last, pair = .array [.string first, .string last]
      ∧ Date.ofText first = .ok range.first ∧ Date.ofText last = .ok range.last := by
  constructor
  · intro h
    unfold ofPair at h
    split at h
    · rename_i first last
      exact ⟨first, last, rfl, ofBounds_eq_ok_iff.1 h⟩
    · cases h
  · rintro ⟨first, last, rfl, h⟩
    exact ofBounds_eq_ok_iff.2 h

theorem mem_readable_iff {v : Value} {range : DateRange} : range ∈ readable v ↔ ReadIn v range := by
  rw [readable, mem_successes_iff]
  constructor
  · intro h
    cases v with
    | string s =>
      obtain ⟨entry, hentry, hrange⟩ := List.mem_map.1 h
      obtain ⟨hmem, hblank⟩ := List.mem_filter.1 hentry
      exact .entry hmem (by simpa using hblank) hrange
    | array items =>
      obtain ⟨pair, hmem, hrange⟩ := List.mem_map.1 h
      obtain ⟨first, last, rfl, hfirst, hlast⟩ := ofPair_eq_ok_iff.1 hrange
      exact .pair hmem hfirst hlast
    | null => cases h
    | _ => simp [results] at h
  · intro h
    cases h with
    | @entry s entry range hmem hblank h =>
      have hentry : entry ∈ entries s.toList := List.mem_filter.2 ⟨hmem, by simp [hblank]⟩
      exact List.mem_map.2 ⟨entry, hentry, h⟩
    | pair hmem hfirst hlast =>
      exact List.mem_map.2 ⟨_, hmem, ofPair_eq_ok_iff.2 ⟨_, _, rfl, hfirst, hlast⟩⟩

lemma contains_iff {range : DateRange} {d : Date} :
    range.contains d = true ↔ range.first ≤ d ∧ d ≤ range.last := by
  rw [contains, Bool.and_eq_true, decide_eq_true_iff, decide_eq_true_iff]

end DateRange

theorem DateFilter.passes_iff {f : DateFilter} {row : Row} : f.passes row = true
    ↔ f.isActive = false ∨ ∃ d v range, f.date = some d ∧ row.get? f.field = some v
      ∧ DateRange.ReadIn v range ∧ range.first ≤ d ∧ d ≤ range.last := by
  unfold passes isActive
  cases f.date with
  | none => simp
  | some d =>
    cases row.get? f.field with
    | none => simp
    | some v => simp [DateRange.mem_readable_iff, DateRange.contains_iff]

/-- A filter keeps its column and its range field, and its day is the one of the last call that set
one.  To set a day is to answer every filter with that filter on the day; a call that is refused and
a call without a model to restore leave the whole filter as it was.  There is a model exactly when
the filter is active.  A row passes exactly when the filter is not active, or the row has the
field that is read and in its value some range can be read that the day lies in. -/
theorem filter_keeps_day_of_last_call (column : String) (rangeField : Option String)
    (calls : List FilterCall) :
    let f := (DateFilter.new column rangeField).run calls
    (f.column = column ∧ f.rangeField = rangeField ∧ DateFilter.LeavesDay none calls f.date)
      ∧ (∀ call day, FilterCall.Sets call day ↔
        ∀ g, call.outcome g = .ok { g with date := day })
      ∧ (∀ call : FilterCall, (∀ g, call.outcome f = .ok g → call.perform.run.run f = (.ok (), g))
        ∧ ∀ e, call.outcome f = .error e → call.perform.run.run f = (.error e, f))
      ∧ f.after (.restore none) = f
      ∧ ((∃ model, f.model? = some model) ↔ f.isActive = true)
      ∧ ∀ row : Row, f.passes row = true ↔ f.isActive = false
        ∨ ∃ d v range, f.date = some d ∧ row.get? (rangeField.getD column) = some v
          ∧ DateRange.ReadIn v range ∧ range.first ≤ d ∧ d ≤ range.last := by
  intro f
  obtain ⟨day, hday, hrun⟩ := (DateFilter.new column rangeField).run_eq calls
  have hf : f = ⟨column, rangeField, day⟩ := hrun
  have hperform : ∀ call : FilterCall,
      (∀ g, call.outcome f = .ok g → call.perform.run.run f = (.ok (), g))
        ∧ ∀ e, call.outcome f = .error e → call.perform.run.run f = (.error e, f) := by
    intro call
    constructor
    · intro g h
      rw [FilterCall.perform_eq, h]
    · intro e h
      rw [FilterCall.perform_eq, h]
  have hmodel : (∃ model, f.model? = some model) ↔ f.isActive = true := by
    rw [DateFilter.model?, DateFilter.isActive]
    cases f.date <;> simp
  have hkept : f.column = column ∧ f.rangeField = rangeField
      ∧ DateFilter.LeavesDay none calls f.date := by
    rw [hf]
    exact ⟨rfl, rfl, hday⟩
  refine ⟨hkept, fun _ _ => FilterCall.sets_iff, hperform, rfl, hmodel, fun row => ?_⟩
  have hfield : f.field = rangeField.getD column := by
    rw [DateFilter.field, hkept.1, hkept.2.1]
  rw [DateFilter.passes_iff, hfield]

/-- A text that is no date and a model of a day that does not exist leave the day that was set.  A
row passes by the one of its ranges that can be read. -/
theorem filter_after_refused_calls :
    let calls : List FilterCall := [.setDate (some "05.01.2024"), .setDate (some "soon"),
      .restore (some ⟨"2024-02-30", dateFilterType⟩)]
    let f := (DateFilter.new "runtime" (some "ranges")).run calls
    let row := Row.empty.insert "ranges" (.string "soon, 2024-01-01 - 2024-01-31")
    DateFilter.LeavesDay none calls f.date ∧ f.date = some ⟨2024, 1, 5, by decide⟩
      ∧ (FilterCall.setDate (some "soon")).perform.run.run f = (.error (.invalidDate "soon"), f)
      ∧ f.passes row = true := by
  intro calls f row
  obtain ⟨hkept, -, hperform, -, -, hpasses⟩ :=
    filter_keeps_day_of_last_call "runtime" (some "ranges") calls
  have hdate : f.date = some ⟨2024, 1, 5, by decide⟩ := by decide +kernel
  have hrefused : (FilterCall.setDate (some "soon")).outcome f = .error (.invalidDate "soon") := by
    rfl
  have hentry : " 2024-01-01 - 2024-01-31".toList
      ∈ "soon, 2024-01-01 - 2024-01-31".toList.splitOn ',' := by decide
  have hrange : DateRange.ReadIn (.string "soon, 2024-01-01 - 2024-01-31")
      ⟨⟨2024, 1, 1, by decide⟩, ⟨2024, 1, 31, by decide⟩⟩ :=
    .entry hentry (by decide) (by decide +kernel)
  refine ⟨hkept.2.2, hdate, (hperform _).2 _ hrefused, (hpasses row).2 (.inr ?_)⟩
  exact ⟨_, _, _, hdate, rfl, hrange, by decide, by decide⟩

end GridRules
