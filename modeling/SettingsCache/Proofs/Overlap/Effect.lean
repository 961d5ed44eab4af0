import SettingsCache.Proofs.Overlap.Basic
import SettingsCache.Proofs.Overlap.Completion

/-!
# What a moment does

`Effect` says what any moment of a run can do to the store of the cache, and `Outstanding.Fits` what
the calls that are out look like. Both hold at every moment of every run, whatever the provider
does.
-/

namespace SettingsCache

/-! ## The store -/

/-- What the deed of a moment makes of the store of a cache, with the block as it is in view and
some calls out. -/
inductive Effect (c : Cache) (view : BlockView) (out : List Outstanding) : Deed → Store → Prop
  | began {kind : Kind} {operation : Operation kind} {turn : Turn (Progress kind)}
      {fetch : Fetch} (h : c.Starts view operation turn fetch) :
      Effect c view out (.began operation view turn) turn.cache.store
  | completed {verb : Verb} {kind : Kind} {operation : Operation kind} {since : Nat}
      {call : Call verb} {pending : Pending verb kind} {noted : Option Generation}
      {outcome : verb.Outcome} {turn : Turn (Progress kind)} {k : Completion}
      {g : Option Generation}
      (hout : ⟨operation, since, call, pending, noted, some outcome⟩ ∈ out)
      (hk : pending.completion? outcome = some k)
      (h : Completed k c.store turn.cache.store turn.accesses g) :
      Effect c view out (.resumed operation since pending outcome turn) turn.cache.store
  | quiet {verb : Verb} {kind : Kind} {operation : Operation kind} {since : Nat}
      {pending : Pending verb kind} {outcome : verb.Outcome} {turn : Turn (Progress kind)}
      (hk : pending.completion? outcome = none) (ha : turn.accesses = []) :
      Effect c view out (.resumed operation since pending outcome turn) c.store
  | cleared : Effect c view out (.cleared c.clear) {}
  | noted {verb : Verb} {call : Call verb} {generation : Generation} :
      Effect c view out (.noted call generation) c.store
  | answered {verb : Verb} {call : Call verb} {outcome : verb.Outcome} :
      Effect c view out (.answered call outcome) c.store
  | moved : Effect c view out .moved c.store

namespace Effect

variable {c : Cache} {view : BlockView} {out : List Outstanding} {deed : Deed} {s : Store}

/-- Whatever happens, the store goes on to report every failure of its tracker. -/
theorem reporting (h : Effect c view out deed s) (hr : c.store.Reporting) : s.Reporting := by
  cases h with
  | began h => exact h.checked.reporting hr
  | completed _ _ h => exact h.reporting hr
  | cleared => exact fun t ht ↦ nomatch ht
  | quiet | noted | answered | moved => exact hr

end Effect

namespace Overlap

variable {σ : Type} [Provider σ] {moves : σ → σ → Prop} {now : Nat} {deed : Deed}
  {s s' start : Overlap σ} {log : List (Moment σ)}

/-- Every step has one of the effects. -/
theorem Step.effect (h : Step moves now s deed s') (hr : s.cache.store.Reporting) :
    Effect s.cache (Provider.view s.provider) s.outstanding deed s'.cache.store := by
  cases h with
  | begin operation hturn =>
    obtain ⟨fetch, h⟩ := Cache.starts hturn hr
    exact .began h
  | note => exact .noted
  | answer => exact .answered
  | @resume _ _ _ _ _ _ _ _ turn _ _ hout hturn =>
    cases Cache.resumed hturn with
    | completed hk h => exact .completed (mem_of_eq_append_cons hout) hk h
    | quiet hk h =>
      have hs : turn.cache.store = s.cache.store := h.store
      exact hs ▸ .quiet hk h.accesses
  | clear => exact .cleared
  | move => exact .moved

/-- No step changes the namespace, the owner or the configuration of the cache. -/
theorem Step.identity (h : Step moves now s deed s') (hr : s.cache.store.Reporting) :
    s'.cache.identity = s.cache.identity := by
  cases h with
  | begin operation hturn =>
    obtain ⟨fetch, h⟩ := Cache.starts hturn hr
    exact h.identity
  | resume hout hturn =>
    cases Cache.resumed hturn with
    | completed hk h hi => exact hi
    | quiet hk h => exact h.identity
  | note | answer | clear | move => rfl

/-- A fresh cache reports every failure of its tracker at every moment of a run. -/
theorem Run.reporting (run : Run moves start log s) (fresh : start.Fresh) :
    s.cache.store.Reporting := by
  induction run with
  | nil =>
    intro t ht
    rw [fresh.store] at ht
    cases ht
  | snoc _ step ih => exact (step.effect ih).reporting ih

theorem Run.identity (run : Run moves start log s) (fresh : start.Fresh) :
    s.cache.identity = start.cache.identity := by
  induction run with
  | nil => rfl
  | snoc run step ih => exact (step.identity (run.reporting fresh)).trans ih

theorem Run.ns (run : Run moves start log s) (fresh : start.Fresh) :
    s.cache.ns = start.cache.ns := Cache.ns_of_identity (run.identity fresh)

theorem Run.owner (run : Run moves start log s) (fresh : start.Fresh) :
    s.cache.owner = start.cache.owner := Cache.owner_of_identity (run.identity fresh)

end Overlap

end SettingsCache
