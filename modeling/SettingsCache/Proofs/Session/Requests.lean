import SettingsCache.Proofs.Session.Basic

/-!
# What a provider is asked

A provider that keeps a record of the calls made of it answers as it did before; only the record is
added. With it one can say what a cache asks for while it carries an operation out.
-/

namespace SettingsCache

/-! ## Providers that keep something besides -/

section Underlying

variable {σ τ : Type} [Provider σ] [Provider τ]

/-- What is under a provider answers as the provider does, and everything goes through to it. -/
structure Provider.Underlying (under : τ → σ) : Prop where
  serve : ∀ provider ns {verb : Verb} (call : Call verb),
    Provider.serve (under provider) ns call =
      ((Provider.serve provider ns call).1, under (Provider.serve provider ns call).2)
  view : ∀ provider, Provider.view (under provider) = Provider.view provider
  access : ∀ provider access,
    Provider.access (under provider) access = under (Provider.access provider access)

namespace Provider.Underlying

variable {under : τ → σ} (h : Underlying under)

include h

theorem accessAll (provider : τ) (accesses : List Access) :
    Provider.accessAll (under provider) accesses =
      under (Provider.accessAll provider accesses) := by
  induction accesses generalizing provider with
  | nil => rfl
  | cons access rest ih =>
    refine Eq.trans ?_ (ih (Provider.access provider access))
    exact congrArg (Provider.accessAll · rest) (h.access provider access)

theorem carryOn (c : Cache) (provider : τ) {kind : Kind} (progress : Progress kind) :
    c.carryOn (under provider) progress =
      let performed := c.carryOn provider progress
      ⟨performed.state, under performed.provider, performed.answer⟩ := by
  fun_induction Cache.carryOn c provider progress with
  | case1 c provider answer => rw [Cache.carryOn_done]
  | case2 c provider verb call pending outcome provider' hserve turn ih =>
    rw [Cache.carryOn_calling, h.serve, hserve]
    dsimp only
    rw [h.accessAll]
    exact ih

/-- What is kept besides makes no difference. -/
theorem perform (c : Cache) (provider : τ) {kind : Kind} (operation : Operation kind) :
    c.perform (under provider) operation =
      let performed := c.perform provider operation
      ⟨performed.state, under performed.provider, performed.answer⟩ := by
  unfold Cache.perform
  dsimp only
  rw [h.view, h.accessAll, h.carryOn]

end Provider.Underlying

end Underlying

/-! ## Records of calls -/

/-- A call about a namespace. -/
structure Request where
  ns : Namespace
  {verb : Verb}
  call : Call verb

/-- A provider and the calls made of it, oldest first. -/
structure Recorded (σ : Type) where
  provider : σ
  requests : List Request := []

instance {σ : Type} [Provider σ] : Provider (Recorded σ) where
  serve recorded ns call :=
    let served := Provider.serve recorded.provider ns call
    (served.1, ⟨served.2, recorded.requests ++ [⟨ns, call⟩]⟩)
  view recorded := Provider.view recorded.provider
  access recorded access := { recorded with provider := Provider.access recorded.provider access }

namespace Recorded

variable {σ : Type} [Provider σ]

theorem underlying : Provider.Underlying (Recorded.provider : Recorded σ → σ) where
  serve _ _ _ _ := rfl
  view _ := rfl
  access _ _ := rfl

theorem provider_accessAll (recorded : Recorded σ) (accesses : List Access) :
    (Provider.accessAll recorded accesses).provider =
      Provider.accessAll recorded.provider accesses := (underlying.accessAll ..).symm

theorem requests_accessAll (recorded : Recorded σ) (accesses : List Access) :
    (Provider.accessAll recorded accesses).requests = recorded.requests := by
  induction accesses generalizing recorded with
  | nil => rfl
  | cons access rest ih => exact ih (Provider.access recorded access)

/-- The record makes no difference. -/
theorem perform (c : Cache) (recorded : Recorded σ) {kind : Kind} (operation : Operation kind) :
    let performed := c.perform recorded.provider operation
    let performed' := c.perform recorded operation
    performed'.state = performed.state ∧ performed'.provider.provider = performed.provider ∧
      performed'.answer = performed.answer := by
  rw [underlying.perform]
  exact ⟨rfl, rfl, rfl⟩

end Recorded

namespace Session

/-- The calls that a cache makes to carry an operation out. -/
def requests (s : Session) {kind : Kind} (operation : Operation kind) : List Request :=
  let recorded : Recorded Service := { provider := s.service }
  (s.cache.perform recorded operation).provider.requests

/-- The reads that a cache asks for at an event. -/
def readsAt (s : Session) : Event → List Request
  | .operate operation => (s.requests operation).filter (·.call.reads)
  | .clear | .change _ => []

/-- The reads that a cache asks for, from the first event to the last. -/
def reads (s : Session) : List Event → List Request
  | [] => []
  | event :: rest => s.readsAt event ++ (s.next event).reads rest

end Session

end SettingsCache
