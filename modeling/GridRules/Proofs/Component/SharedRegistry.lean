import GridRules.Component.Host
import GridRules.Proofs.Dictionary
import Mathlib.Logic.Function.Basic

/-!
# A registry that is shared

A handle on a registry points to a cell of memory, and so do its clones (`Handle.cell`).  Whoever
holds a handle registers components and mounts cells through it, and the instances that were mounted
put out values in between, in any order (`HostCall`).  What is seen through a handle is a host: the
registry in the cell and everything that is mounted (`Workspace.host`).

What a call does is said once (`Workspace.after_eq`), and from this follows what any run leaves.
The component of a name is the last one that was registered (`Workspace.find?_run`), so the calls
before a mount tell how it ends (`MountEnds`).  An editor is the one that was mounted last under its
name, and its value is the last one that its own instance put out since then
(`Workspace.editors_run_iff`).
-/

namespace GridRules

variable {σ : Type}

/-! ## Mounted cells -/

namespace Host

/-- New parameters change the renderer of a name and nothing else. -/
lemma refresh_eq (h : Host σ) (id : String) (params : Value) :
    h.refresh id params = { h with renderers := h.renderers.modify id (·.refresh params) } := by
  unfold refresh Dictionary.modify
  cases h.renderers.get? id <;> rfl

/-- A value that is put out changes the editor of a name and nothing else. -/
lemma publish_eq (h : Host σ) (id : String) (v : Value) :
    h.publish id v = { h with editors := h.editors.modify id (·.publish v) } := by
  unfold publish Dictionary.modify
  cases h.editors.get? id <;> rfl

end Host

/-- New parameters change the state of an instance that has the channel for them. -/
lemma AppRenderer.refresh_eq (a : AppRenderer σ) (params : Value) :
    a.refresh params = ⟨a.componentName, a.mounted.component,
      (a.mounted.component.send a.mounted.state refreshChannel params).getD a.mounted.state⟩ := by
  unfold refresh
  cases a.mounted.component.send a.mounted.state refreshChannel params <;> rfl

/-! ## Handles and calls -/

/-- A handle on a registry: the one that was made with it, or a clone of a handle. -/
inductive Handle where
  /-- The handle that was made with the registry in a cell of memory. -/
  | made (cell : Nat)
  /-- A clone. -/
  | clone (original : Handle)
deriving DecidableEq

/-- The cell of memory with the registry; a clone points to the same one. -/
def Handle.cell : Handle → Nat
  | made cell => cell
  | clone original => original.cell

/-- Registries in cells of memory, and what was mounted from them. -/
structure Workspace (σ : Type) where
  /-- The registries. -/
  registries : Nat → Registry σ
  /-- The mounted renderers. -/
  renderers : Dictionary (AppRenderer σ)
  /-- The mounted editors. -/
  editors : Dictionary (AppEditor σ)

/-- A call through a handle, or a value that a mounted instance puts out. -/
inductive HostCall (σ : Type) where
  /-- Registers a component. -/
  | register (via : Handle) (c : Component σ)
  /-- Looks for a component. -/
  | find (via : Handle) (name : String)
  /-- Looks for a component that has to be there. -/
  | require (via : Handle) (name : String)
  /-- Asks for the registered names. -/
  | names (via : Handle)
  /-- Mounts a renderer under a name. -/
  | mountRenderer (via : Handle) (id : String) (params : Value)
  /-- Mounts an editor under a name. -/
  | mountEditor (via : Handle) (id : String) (params : Value)
  /-- Hands new parameters to a renderer. -/
  | refresh (via : Handle) (id : String) (params : Value)
  /-- The instance of a renderer puts out a value; nobody listens to it. -/
  | rendererPutsOut (id channel : String) (v : Value)
  /-- The instance that is mounted as an editor under a name puts out a value; the host hears it
  through a handle. -/
  | editorPutsOut (via : Handle) (id channel : String) (v : Value)

/-- What a call answers. -/
inductive HostAnswer (σ : Type) where
  /-- The call is done. -/
  | done
  /-- The component that was looked for. -/
  | found (c : Option (Component σ))
  /-- The registered names. -/
  | names (names : List String)

namespace Workspace

/-- The workspace before anything is registered or mounted. -/
def empty : Workspace σ := ⟨fun _ => .empty, .empty, .empty⟩

/-- What is seen through a handle. -/
def host (w : Workspace σ) (via : Handle) : Host σ :=
  ⟨w.registries via.cell, w.renderers, w.editors⟩

/-- The workspace with what was changed through a handle. -/
def store (w : Workspace σ) (via : Handle) (h : Host σ) : Workspace σ :=
  ⟨Function.update w.registries via.cell h.registry, h.renderers, h.editors⟩

/-- What is changed through a handle, the registry aside. -/
lemma store_eq {w : Workspace σ} {via : Handle} {h : Host σ}
    (hregistry : h.registry = w.registries via.cell) :
    w.store via h = { w with renderers := h.renderers, editors := h.editors } := by
  rw [store, hregistry, Function.update_eq_self]

/-- The workspace with a renderer under a name. -/
def withRenderer (w : Workspace σ) (id : String) (a : AppRenderer σ) : Workspace σ :=
  { w with renderers := w.renderers.insert id a }

/-- The workspace with an editor under a name. -/
def withEditor (w : Workspace σ) (id : String) (a : AppEditor σ) : Workspace σ :=
  { w with editors := w.editors.insert id a }

lemma get?_withEditor (w : Workspace σ) (id other : String) (a : AppEditor σ) :
    (w.withEditor id a).editors.get? other
      = if other = id then some a else w.editors.get? other := Dictionary.get?_insert ..

end Workspace

namespace HostCall

/-- Calls the host that is seen through a handle.  An error would not undo what was assigned before
it. -/
def onHost (via : Handle) (f : Host σ → Except ComponentError (Host σ)) :
    ExceptT ComponentError (StateM (Workspace σ)) (HostAnswer σ) := do
  let h ← ofExcept (f ((← get).host via))
  modify (·.store via h)
  return .done

/-- A call on a workspace that is kept in a variable. -/
def perform : HostCall σ → ExceptT ComponentError (StateM (Workspace σ)) (HostAnswer σ)
  | register via c => onHost via fun h => .ok (h.register c)
  | find via name => return .found (((← get).host via).registry.find? name)
  | require via name => do
    let c ← ofExcept (((← get).host via).registry.require name)
    return .found (some c)
  | names via => return .names ((← get).host via).registry.names
  | mountRenderer via id params => onHost via fun h => h.mountRenderer id params
  | mountEditor via id params => onHost via fun h => h.mountEditor id params
  | refresh via id params => onHost via fun h => .ok (h.refresh id params)
  | rendererPutsOut _ _ _ => return .done
  | editorPutsOut via id channel v =>
    if channel = valueChannel then onHost via fun h => .ok (h.publish id v) else return .done

lemma run_get_bind {α : Type} (w : Workspace σ)
    (rest : Workspace σ → ExceptT ComponentError (StateM (Workspace σ)) α) :
    (get >>= rest).run.run w = (rest w).run.run w := rfl

lemma run_onHost (w : Workspace σ) (via : Handle) (f : Host σ → Except ComponentError (Host σ)) :
    (onHost via f).run.run w =
      match f (w.host via) with
      | .ok h => (.ok .done, w.store via h)
      | .error e => (.error e, w) := by
  rw [onHost, run_get_bind]
  cases f (w.host via) <;> rfl

end HostCall

/-! ## One call -/

namespace Workspace

/-- The workspace after a call. -/
def after (w : Workspace σ) (call : HostCall σ) : Workspace σ := (call.perform.run.run w).2

/-- The workspace after some calls, when nothing was registered or mounted before. -/
def run (calls : List (HostCall σ)) : Workspace σ := calls.foldl after empty

lemma run_append_singleton (calls : List (HostCall σ)) (call : HostCall σ) :
    run (calls ++ [call]) = (run calls).after call := by
  rw [run, List.foldl_append]
  rfl

/-- A mount that succeeds adds the renderer, and one that fails changes nothing. -/
lemma run_mountRenderer (w : Workspace σ) (via : Handle) (id : String) (params : Value) :
    (HostCall.mountRenderer via id params).perform.run.run w =
      match AppRenderer.mount (w.registries via.cell) params with
      | .ok a => (.ok .done, w.withRenderer id a)
      | .error e => (.error e, w) := by
  rw [HostCall.perform, HostCall.run_onHost, Host.mountRenderer, host]
  dsimp only
  cases AppRenderer.mount (w.registries via.cell) params with
  | error e => rfl
  | ok a =>
    dsimp only [Except.map]
    rw [store_eq]
    · rfl
    · rfl

/-- A mount that succeeds adds the editor, and one that fails changes nothing. -/
lemma run_mountEditor (w : Workspace σ) (via : Handle) (id : String) (params : Value) :
    (HostCall.mountEditor via id params).perform.run.run w =
      match AppEditor.mount (w.registries via.cell) params with
      | .ok a => (.ok .done, w.withEditor id a)
      | .error e => (.error e, w) := by
  rw [HostCall.perform, HostCall.run_onHost, Host.mountEditor, host]
  dsimp only
  cases AppEditor.mount (w.registries via.cell) params with
  | error e => rfl
  | ok a =>
    dsimp only [Except.map]
    rw [store_eq]
    · rfl
    · rfl

/-- A look-up changes nothing. -/
lemma run_require (w : Workspace σ) (via : Handle) (name : String) :
    (HostCall.require via name).perform.run.run w =
      match (w.registries via.cell).require name with
      | .ok c => (.ok (.found (some c)), w)
      | .error e => (.error e, w) := by
  rw [HostCall.perform, HostCall.run_get_bind]
  dsimp only [host]
  cases (w.registries via.cell).require name <;> rfl

/-- New parameters change a renderer and nothing else. -/
lemma run_refresh (w : Workspace σ) (via : Handle) (id : String) (params : Value) :
    (HostCall.refresh via id params).perform.run.run w
      = (.ok .done, { w with renderers := w.renderers.modify id (·.refresh params) }) := by
  rw [HostCall.perform, HostCall.run_onHost]
  dsimp only
  rw [Host.refresh_eq, store_eq]
  · rfl
  · rfl

/-- What a call does, in one case for each.  A call that fails changes nothing, a registration
changes the registry in the cell of its handle, and a value that an instance puts out reaches its
own editor, on the channel of the value alone. -/
lemma after_eq (w : Workspace σ) (call : HostCall σ) : w.after call =
    match call with
    | .register via c =>
      { w with registries :=
          Function.update w.registries via.cell ((w.registries via.cell).register c) }
    | .mountRenderer via id params =>
      match AppRenderer.mount (w.registries via.cell) params with
      | .ok a => w.withRenderer id a
      | .error _ => w
    | .mountEditor via id params =>
      match AppEditor.mount (w.registries via.cell) params with
      | .ok a => w.withEditor id a
      | .error _ => w
    | .refresh _ id params => { w with renderers := w.renderers.modify id (·.refresh params) }
    | .editorPutsOut _ id channel v =>
      if channel = valueChannel then { w with editors := w.editors.modify id (·.publish v) } else w
    | _ => w := by
  cases call with
  | register via c => rfl
  | find via name => rfl
  | require via name =>
    rw [after, run_require]
    cases (w.registries via.cell).require name <;> rfl
  | names via => rfl
  | mountRenderer via id params =>
    rw [after, run_mountRenderer]
    dsimp only
    cases AppRenderer.mount (w.registries via.cell) params <;> rfl
  | mountEditor via id params =>
    rw [after, run_mountEditor]
    dsimp only
    cases AppEditor.mount (w.registries via.cell) params <;> rfl
  | refresh via id params => rw [after, run_refresh]
  | rendererPutsOut id channel v => rfl
  | editorPutsOut via id channel v =>
    rw [after, HostCall.perform]
    dsimp only
    split
    · rw [HostCall.run_onHost]
      dsimp only
      rw [Host.publish_eq, store_eq]
      · rfl
      · rfl
    · rfl

end Workspace

/-! ## The last call that does something -/

/-- What the last call does that does something. -/
def lastOf {β : Type} (does : HostCall σ → Option β) (calls : List (HostCall σ)) : Option β :=
  calls.reverse.findSome? does

lemma lastOf_append_singleton {β : Type} (does : HostCall σ → Option β) (calls : List (HostCall σ))
    (call : HostCall σ) :
    lastOf does (calls ++ [call]) = (does call).or (lastOf does calls) := by
  rw [lastOf, List.reverse_concat, List.findSome?_cons]
  cases does call <;> rfl

namespace HostCall

/-- The component that a call registers under a name in a cell. -/
def registered? (cell : Nat) (name : String) : HostCall σ → Option (Component σ)
  | register via c => if via.cell = cell ∧ name = c.name then some c else none
  | _ => none

/-- The value that the instance of an editor puts out for it in a call. -/
def putOut? (id : String) : HostCall σ → Option Value
  | editorPutsOut _ other channel v => if id = other ∧ channel = valueChannel then some v else none
  | _ => none

end HostCall

/-- The component that was registered last under a name in a cell. -/
def lastRegistered (cell : Nat) (name : String) (calls : List (HostCall σ)) :
    Option (Component σ) := lastOf (HostCall.registered? cell name) calls

/-- The last value that the instance of an editor put out for it. -/
def lastPutOut (id : String) (calls : List (HostCall σ)) : Option Value :=
  lastOf (HostCall.putOut? id) calls

namespace Workspace

lemma find?_after (w : Workspace σ) (cell : Nat) (name : String) (call : HostCall σ) :
    ((w.after call).registries cell).find? name
      = (call.registered? cell name).or ((w.registries cell).find? name) := by
  rw [after_eq]
  cases call with
  | register via c =>
    dsimp only [HostCall.registered?]
    by_cases hcell : via.cell = cell
    · subst hcell
      rw [Function.update_self, Registry.find?, Registry.register, Dictionary.get?_insert]
      by_cases hname : name = c.name
      · simp [hname]
      · simp [hname, Registry.find?]
    · simp [hcell, Function.update_of_ne (Ne.symm hcell)]
  | mountRenderer via id params =>
    dsimp only
    cases AppRenderer.mount (w.registries via.cell) params <;> rfl
  | mountEditor via id params =>
    dsimp only
    cases AppEditor.mount (w.registries via.cell) params <;> rfl
  | editorPutsOut via id channel v =>
    dsimp only
    split <;> rfl
  | _ => rfl

/-- A name has the component that was registered last. -/
lemma find?_run (calls : List (HostCall σ)) (cell : Nat) (name : String) :
    ((run calls).registries cell).find? name = lastRegistered cell name calls := by
  induction calls using List.reverseRecOn with
  | nil => rfl
  | append_singleton calls call ih =>
    rw [run_append_singleton, find?_after, ih, lastRegistered, lastRegistered,
      lastOf_append_singleton]

lemma registered?_isSome_iff {cell : Nat} {name : String} {call : HostCall σ} :
    (call.registered? cell name).isSome
      ↔ ∃ via c, call = .register via c ∧ via.cell = cell ∧ name = c.name := by
  cases call with
  | register via c => simp [HostCall.registered?]
  | _ => simp [HostCall.registered?]

/-- The names in a registry are those that were registered. -/
lemma mem_names_run_iff (calls : List (HostCall σ)) (cell : Nat) (name : String) :
    name ∈ ((run calls).registries cell).names
      ↔ ∃ via c, .register via c ∈ calls ∧ via.cell = cell ∧ name = c.name := by
  rw [Registry.names, Dictionary.mem_keys_iff]
  have hfind := find?_run calls cell name
  rw [Registry.find?] at hfind
  rw [hfind, lastRegistered, lastOf, List.findSome?_isSome_iff]
  simp only [List.mem_reverse, registered?_isSome_iff]
  constructor
  · rintro ⟨_, hmem, via, c, rfl, h⟩
    exact ⟨via, c, hmem, h⟩
  · rintro ⟨via, c, hmem, h⟩
    exact ⟨_, hmem, via, c, rfl, h⟩

end Workspace

/-! ## How a mount ends -/

/-- The parameters of a cell name a component, with a text that is not empty. -/
def NamesComponent (params : Value) (name : String) : Prop :=
  params.field? "componentName" = some (.string name) ∧ name ≠ ""

/-- How a mount through a handle on a cell ends after some calls. -/
inductive MountEnds (calls : List (HostCall σ)) (cell : Nat) (params : Value) :
    Except ComponentError (String × Instance σ) → Prop
  /-- The parameters name no component. -/
  | missingName (h : ∀ name, ¬ NamesComponent params name) :
      MountEnds calls cell params (.error .missingName)
  /-- No component was registered under the name. -/
  | notFound {name : String} (hname : NamesComponent params name)
      (h : lastRegistered cell name calls = none) :
      MountEnds calls cell params (.error (.notFound name))
  /-- The component that was registered last refuses to start. -/
  | refused {name : String} {c : Component σ} {e : ComponentError}
      (hname : NamesComponent params name) (hc : lastRegistered cell name calls = some c)
      (h : c.start params = .error e) : MountEnds calls cell params (.error e)
  /-- The component that was registered last starts. -/
  | mounted {name : String} {c : Component σ} {state : σ} (hname : NamesComponent params name)
      (hc : lastRegistered cell name calls = some c) (h : c.start params = .ok state) :
      MountEnds calls cell params (.ok (name, ⟨c, state⟩))

lemma componentName_eq_ok {params : Value} {name : String} (h : NamesComponent params name) :
    componentName params = .ok name := by
  rw [componentName, h.1]
  exact if_neg h.2

lemma componentName_eq_error {params : Value} (h : ∀ name, ¬ NamesComponent params name) :
    componentName params = .error .missingName := by
  unfold componentName
  split
  · rename_i name hfield
    rw [if_pos (not_not.1 fun hne => h name ⟨hfield, hne⟩)]
  · rfl

/-- A mount ends in one way, which is told by the calls before it. -/
lemma mountEnds_iff {calls : List (HostCall σ)} {cell : Nat} {params : Value}
    {outcome : Except ComponentError (String × Instance σ)} :
    MountEnds calls cell params outcome
      ↔ Instance.mount ((Workspace.run calls).registries cell) params = outcome := by
  have hmount : ∀ {name}, NamesComponent params name →
      Instance.mount ((Workspace.run calls).registries cell) params
        = match lastRegistered cell name calls with
          | none => .error (.notFound name)
          | some c => (c.start params).map fun state => (name, ⟨c, state⟩) := by
    intro name hname
    rw [Instance.mount, componentName_eq_ok hname]
    dsimp only
    rw [Registry.require, Workspace.find?_run]
    cases lastRegistered cell name calls <;> rfl
  constructor
  · intro h
    cases h with
    | missingName h => rw [Instance.mount, componentName_eq_error h]
    | notFound hname h => rw [hmount hname, h]
    | refused hname hc h => rw [hmount hname, hc]; dsimp only; rw [h]; rfl
    | mounted hname hc h => rw [hmount hname, hc]; dsimp only; rw [h]; rfl
  · rintro rfl
    by_cases hnone : ∀ name, ¬ NamesComponent params name
    · rw [Instance.mount, componentName_eq_error hnone]
      exact .missingName hnone
    · obtain ⟨name, hname⟩ := not_forall_not.1 hnone
      rw [hmount hname]
      cases hc : lastRegistered cell name calls with
      | none => exact .notFound hname hc
      | some c =>
        dsimp only
        cases hstart : c.start params with
        | error e => exact .refused hname hc hstart
        | ok state => exact .mounted hname hc hstart

/-! ## Editors -/

/-- The editor after its instance put out a value, or put out none. -/
def AppEditor.hear (heard : Option Value) (a : AppEditor σ) : AppEditor σ :=
  match heard with
  | some v => a.publish v
  | none => a

/-- The editor that was mounted with an instance, after some calls.  It starts with the value that
its parameters carry, null when they carry none.  An instance that has the channel of the value puts
its values out there; any other leaves the value as it started. -/
def AppEditor.later (id : String) (name : String) (i : Instance σ) (params : Value)
    (since : List (HostCall σ)) : AppEditor σ :=
  let listening := i.component.putsOut i.state valueChannel
  let carried := (params.field? "value").getD .null
  ⟨name, i, listening, if listening then (lastPutOut id since).getD carried else carried⟩

lemma AppEditor.hear_later (id name : String) (i : Instance σ) (params : Value)
    (since : List (HostCall σ)) (call : HostCall σ) :
    (later id name i params since).hear (call.putOut? id)
      = later id name i params (since ++ [call]) := by
  unfold later lastPutOut
  rw [lastOf_append_singleton]
  cases call.putOut? id with
  | none => rfl
  | some v =>
    dsimp only [hear, publish]
    cases i.component.putsOut i.state valueChannel <;> rfl

/-- The last mount of an editor under a name that succeeded: the name of its component, its
instance, its parameters and the calls since then. -/
inductive MountedLast (id : String) :
    List (HostCall σ) → String → Instance σ → Value → List (HostCall σ) → Prop
  /-- The editor is mounted by the last call. -/
  | mount {calls : List (HostCall σ)} {via : Handle} {name : String} {i : Instance σ}
      {params : Value} (h : MountEnds calls via.cell params (.ok (name, i))) :
      MountedLast id (calls ++ [.mountEditor via id params]) name i params []
  /-- A later call mounts no editor under the name, or it fails. -/
  | keep {calls since : List (HostCall σ)} {call : HostCall σ} {name : String} {i : Instance σ}
      {params : Value} (h : MountedLast id calls name i params since)
      (hcall : ∀ via other, call = .mountEditor via id other →
        ∃ e, MountEnds calls via.cell other (.error e)) :
      MountedLast id (calls ++ [call]) name i params (since ++ [call])

namespace Workspace

variable {calls : List (HostCall σ)} {id : String}

lemma editorMount_eq (id : String) {cell : Nat} {params : Value}
    {outcome : Except ComponentError (String × Instance σ)}
    (h : MountEnds calls cell params outcome) :
    AppEditor.mount ((run calls).registries cell) params
      = outcome.map fun (name, i) => AppEditor.later id name i params [] := by
  rw [AppEditor.mount, mountEnds_iff.1 h]
  cases outcome with
  | error e => rfl
  | ok result =>
    obtain ⟨name, i⟩ := result
    dsimp only [Except.map, AppEditor.later]
    cases i.component.putsOut i.state valueChannel <;> rfl

/-- A call that mounts no editor under a name changes the editor only by what its instance puts
out. -/
lemma get?_editors_after {call : HostCall σ} (hcall : ∀ via params,
      call = .mountEditor via id params → ∃ e, MountEnds calls via.cell params (.error e)) :
    ((run calls).after call).editors.get? id
      = ((run calls).editors.get? id).map (AppEditor.hear (call.putOut? id)) := by
  have hsame : ∀ {editor : Option (AppEditor σ)}, editor = editor.map (AppEditor.hear none) :=
    fun {editor} => by cases editor <;> rfl
  rw [after_eq]
  cases call with
  | mountRenderer via other params =>
    dsimp only
    cases AppRenderer.mount ((run calls).registries via.cell) params <;> exact hsame
  | mountEditor via other params =>
    dsimp only
    by_cases hother : id = other
    · subst hother
      obtain ⟨e, he⟩ := hcall via params rfl
      rw [editorMount_eq id he]
      exact hsame
    · cases AppEditor.mount ((run calls).registries via.cell) params with
      | error e => exact hsame
      | ok a =>
        dsimp only
        rw [get?_withEditor, if_neg hother]
        exact hsame
  | editorPutsOut via other channel v =>
    dsimp only [HostCall.putOut?]
    by_cases hchannel : channel = valueChannel
    · rw [if_pos hchannel]
      dsimp only
      rw [Dictionary.get?_modify]
      by_cases hother : id = other
      · subst hother
        rw [if_pos rfl, if_pos ⟨rfl, hchannel⟩]
        rfl
      · rw [if_neg hother, if_neg fun h => hother h.1]
        exact hsame
    · rw [if_neg hchannel, if_neg fun h => hchannel h.2]
      exact hsame
  | _ => exact hsame

/-- The editor of a name is the one that was mounted last, with what its instance put out since
then. -/
lemma editors_run_iff {a : AppEditor σ} : (run calls).editors.get? id = some a
    ↔ ∃ name i params since, MountedLast id calls name i params since
      ∧ a = AppEditor.later id name i params since := by
  constructor
  · intro h
    induction calls using List.reverseRecOn generalizing a with
    | nil => cases h
    | append_singleton calls call ih =>
      rw [run_append_singleton] at h
      by_cases hcall : ∀ via params, call = .mountEditor via id params →
          ∃ e, MountEnds calls via.cell params (.error e)
      · rw [get?_editors_after hcall] at h
        obtain ⟨b, hb, rfl⟩ := Option.map_eq_some_iff.1 h
        obtain ⟨name, i, params, since, hlast, rfl⟩ := ih hb
        exact ⟨name, i, params, _, .keep hlast hcall, AppEditor.hear_later ..⟩
      · -- the call mounts the editor
        push Not at hcall
        obtain ⟨via, params, rfl, hok⟩ := hcall
        cases houtcome : Instance.mount ((run calls).registries via.cell) params with
        | error e => exact absurd (mountEnds_iff.2 houtcome) (hok e)
        | ok result =>
          obtain ⟨name, i⟩ := result
          have hends := mountEnds_iff.2 houtcome
          rw [after_eq] at h
          dsimp only at h
          rw [editorMount_eq id hends] at h
          dsimp only [Except.map] at h
          rw [get?_withEditor, if_pos rfl] at h
          exact ⟨name, i, params, [], .mount hends, (Option.some.inj h).symm⟩
  · rintro ⟨name, i, params, since, h, rfl⟩
    induction h with
    | mount h =>
      rw [run_append_singleton, after_eq]
      dsimp only
      rw [editorMount_eq id h]
      dsimp only [Except.map]
      rw [get?_withEditor, if_pos rfl]
    | keep h hcall ih =>
      rw [run_append_singleton, get?_editors_after hcall, ih, Option.map_some, AppEditor.hear_later]

end Workspace

/-! ## Runs -/

/-- What a handle sees after any run of calls on a workspace in which nothing was registered or
mounted before, whatever the calls are and through which handles they go.  A name has the component
that was registered last under it through any handle on the same registry, and the names are, in
ascending order, those that were registered.  New parameters reach the renderer of a name and
nothing else, and its instance takes them in if it has the channel.  A mount ends as the calls
before it tell, the same for renderers and editors: it fails without a name, without a component of
the name, or because that component refuses to start, and then nothing has changed.  The value of an
editor is the last one that its own instance put out since it was mounted, or the one that it was
mounted with. -/
theorem registry_and_editors_follow_last_calls (calls : List (HostCall σ)) :
    let w := Workspace.run calls
    (∀ (via : Handle) (name : String), (HostCall.find via name).perform.run.run w
      = (.ok (.found (lastRegistered via.cell name calls)), w)) ∧
    (∀ via : Handle, ∃ names, (HostCall.names via).perform.run.run w = (.ok (.names names), w)
      ∧ names.Pairwise (· < ·)
      ∧ ∀ name, name ∈ names ↔ ∃ other c, .register other c ∈ calls ∧ other.cell = via.cell
        ∧ name = c.name) ∧
    (∀ (via : Handle) (id : String) (params : Value), ∃ renderers,
      (HostCall.refresh via id params).perform.run.run w
        = (.ok .done, { w with renderers := renderers }) ∧
      ∀ other, renderers.get? other = if other = id then
          (w.renderers.get? id).map fun a => ⟨a.componentName, a.mounted.component,
            (a.mounted.component.send a.mounted.state refreshChannel params).getD a.mounted.state⟩
        else w.renderers.get? other) ∧
    (∀ (via : Handle) (id : String) (params : Value), ∃ outcome,
      MountEnds calls via.cell params outcome ∧
      (HostCall.mountRenderer via id params).perform.run.run w = (match outcome with
        | .error e => (.error e, w)
        | .ok (name, i) => (.ok .done, w.withRenderer id ⟨name, i⟩)) ∧
      (HostCall.mountEditor via id params).perform.run.run w = match outcome with
        | .error e => (.error e, w)
        | .ok (name, i) => (.ok .done, w.withEditor id (.later id name i params []))) ∧
    ∀ (id : String) (a : AppEditor σ), w.editors.get? id = some a
      ↔ ∃ name i params since, MountedLast id calls name i params since
        ∧ a = AppEditor.later id name i params since := by
  intro w
  refine ⟨fun via name => ?_, fun via => ?_, fun via id params => ?_, fun via id params => ?_,
    fun id a => Workspace.editors_run_iff⟩
  · rw [← Workspace.find?_run]
    rfl
  · exact ⟨_, rfl, List.pairwise_map.2 (w.registries via.cell).ascending,
      Workspace.mem_names_run_iff calls via.cell⟩
  · refine ⟨_, Workspace.run_refresh w via id params, fun other => ?_⟩
    rw [Dictionary.get?_modify]
    simp only [AppRenderer.refresh_eq]
  · have hends : MountEnds calls via.cell params _ := mountEnds_iff.2 rfl
    refine ⟨_, hends, ?_, ?_⟩
    · rw [Workspace.run_mountRenderer, AppRenderer.mount]
      cases Instance.mount (w.registries via.cell) params <;> rfl
    · rw [Workspace.run_mountEditor, Workspace.editorMount_eq id hends]
      cases Instance.mount (w.registries via.cell) params <;> rfl

/-- A component is registered through a clone and gives way to one that puts out nothing.  The
editor from before follows its instance; the other one keeps the value that it was mounted with. -/
example :
    let picker : Component Unit :=
      ⟨"picker", fun _ => .ok (), fun _ _ _ => none, fun _ channel => channel == valueChannel⟩
    let silent : Component Unit := { picker with putsOut := fun _ _ => false }
    let original := Handle.made 0
    let params : Value := .object [("componentName", .string "picker"), ("value", .string "red")]
    let w := Workspace.run [.register (.clone original) picker,
      .mountEditor original "first" params, .register original silent,
      .mountEditor (.clone original) "second" params,
      .editorPutsOut original "first" valueChannel (.string "blue"),
      .editorPutsOut original "second" valueChannel (.string "green")]
    (w.editors.get? "first").map (·.value) = some (.string "blue")
      ∧ (w.editors.get? "second").map (·.value) = some (.string "red") := by
  decide +kernel

end GridRules
