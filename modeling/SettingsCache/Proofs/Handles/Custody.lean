import SettingsCache.Provider

/-!
# Custody of handles

A provider opens a handle when it hands one over, and closes handles. `Custody` is how it tells
which are open, and `Custody.Lawful` says that it hands over new handles only and that a handle once
closed stays so.
-/

namespace SettingsCache

/-- The hand-over that the outcome of a call brings, whether it was asked for or not. -/
def Verb.handOver? (verb : Verb) (outcome : verb.Outcome) : Option HandOver :=
  match verb, outcome with
  | .get, .ok (some reply) => reply.handOver
  | .list, .ok reply => reply.handOver
  | .get, .ok none | .get, .error _ | .list, .error _ => none
  | .put, _ | .query, _ | .reset, _ => none

/-- The handle that an access closes. -/
def Access.closed? : Access → Option Handle
  | .read _ _ => none
  | .close handle => some handle

/-- How a provider tells which handles have been opened, and which have been closed since. -/
structure Custody (σ : Type) where
  opened : σ → Handle → Prop
  closed : σ → Handle → Prop

/-- No handle that was opened or closed is forgotten. -/
structure Custody.Keeps {σ : Type} (c : Custody σ) (s s' : σ) : Prop where
  opened : ∀ h, c.opened s h → c.opened s' h
  closed : ∀ h, c.closed s h → c.closed s' h

/-- The provider hands over new handles only, and closing a handle closes it for good. -/
structure Custody.Lawful {σ : Type} [Provider σ] (c : Custody σ) (moves : σ → σ → Prop) : Prop where
  note_keeps : ∀ s ns {verb : Verb} (call : Call verb) generation s',
    Provider.note? s ns call = some (generation, s') → c.Keeps s s'
  answer_keeps : ∀ s ns {verb : Verb} (call : Call verb) noted,
    c.Keeps s (Provider.answer s ns call noted).2
  access_keeps : ∀ s access, c.Keeps s (Provider.access s access)
  move_keeps : ∀ s s', moves s s' → c.Keeps s s'
  fresh : ∀ s ns {verb : Verb} (call : Call verb) noted handOver,
    verb.handOver? (Provider.answer s ns call noted).1 = some handOver →
      ¬ c.opened s handOver.handle ∧
        c.opened (Provider.answer s ns call noted).2 handOver.handle
  close : ∀ s h, c.opened s h → c.closed (Provider.access s (.close h)) h

namespace Custody

variable {σ : Type} {c : Custody σ}

theorem Keeps.refl (s : σ) : c.Keeps s s := ⟨fun _ h ↦ h, fun _ h ↦ h⟩

theorem Keeps.trans {s t u : σ} (h : c.Keeps s t) (h' : c.Keeps t u) : c.Keeps s u :=
  ⟨fun handle ho ↦ h'.opened handle (h.opened handle ho),
    fun handle hc ↦ h'.closed handle (h.closed handle hc)⟩

variable [Provider σ] {moves : σ → σ → Prop}

theorem Lawful.accessAll_keeps (lawful : c.Lawful moves) (s : σ) (accesses : List Access) :
    c.Keeps s (Provider.accessAll s accesses) := by
  induction accesses generalizing s with
  | nil => exact .refl s
  | cons access rest ih => exact (lawful.access_keeps s access).trans (ih _)

/-- A handle that is closed on the way is closed in the end. -/
theorem Lawful.accessAll_closed (lawful : c.Lawful moves) {s : σ} {accesses : List Access}
    {h : Handle} (ho : c.opened s h) (hc : h ∈ accesses.filterMap Access.closed?) :
    c.closed (Provider.accessAll s accesses) h := by
  induction accesses generalizing s with
  | nil => exact absurd hc List.not_mem_nil
  | cons access rest ih =>
    have hopened := (lawful.access_keeps s access).opened h ho
    cases access with
    | read handle slot => exact ih hopened hc
    | close handle =>
      change h ∈ handle :: rest.filterMap Access.closed? at hc
      rw [List.mem_cons] at hc
      rcases hc with rfl | hc
      · exact (lawful.accessAll_keeps _ rest).closed h (lawful.close s h ho)
      · exact ih hopened hc

end Custody

end SettingsCache
