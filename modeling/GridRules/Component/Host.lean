import GridRules.Component.Cell

/-!
# Hosts

A host keeps one registry and the cells that were mounted from it, each under a name of its own. A
mount that fails leaves everything as it was.
-/

namespace GridRules

/-- A registry with mounted cells. -/
structure Host (σ : Type) where
  /-- The registry. -/
  registry : Registry σ
  /-- The mounted renderers. -/
  renderers : Dictionary (AppRenderer σ)
  /-- The mounted editors. -/
  editors : Dictionary (AppEditor σ)

namespace Host

variable {σ : Type}

/-- The host before anything is registered or mounted. -/
def empty : Host σ := ⟨.empty, .empty, .empty⟩

/-- The host with a component registered. -/
def register (h : Host σ) (c : Component σ) : Host σ := { h with registry := h.registry.register c }

/-- The host with a renderer mounted under a name. -/
def mountRenderer (h : Host σ) (id : String) (params : Value) : Except ComponentError (Host σ) :=
  (AppRenderer.mount h.registry params).map fun a =>
    { h with renderers := h.renderers.insert id a }

/-- The host with new parameters for a renderer. -/
def refresh (h : Host σ) (id : String) (params : Value) : Host σ :=
  match h.renderers.get? id with
  | some a => { h with renderers := h.renderers.insert id (a.refresh params) }
  | none => h

/-- The host with an editor mounted under a name. -/
def mountEditor (h : Host σ) (id : String) (params : Value) : Except ComponentError (Host σ) :=
  (AppEditor.mount h.registry params).map fun a => { h with editors := h.editors.insert id a }

/-- The host after the instance of an editor put out a value. -/
def publish (h : Host σ) (id : String) (v : Value) : Host σ :=
  match h.editors.get? id with
  | some a => { h with editors := h.editors.insert id (a.publish v) }
  | none => h

end Host

end GridRules
