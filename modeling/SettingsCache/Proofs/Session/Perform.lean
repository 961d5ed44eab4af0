import SettingsCache.Proofs.Overlap.Completion
import SettingsCache.Proofs.Service.Agreement

/-!
# What an operation by itself leaves behind

`Cache.perform` answers each call of an operation at once. `carryOn_invariant` follows one cache and
its provider through the calls, `carryOn_related` two of them side by side. A read that is carried
out in this way changes nothing that the service holds, and a write makes one call.
-/

namespace SettingsCache

namespace Cache

variable {σ τ : Type} [Provider σ] [Provider τ] {kind : Kind}

/-! ## Call after call -/

theorem carryOn_done (c : Cache) (provider : σ) (answer : kind.Answer) :
    c.carryOn provider (.done answer) = ⟨c, provider, answer⟩ := by
  rw [carryOn]

theorem carryOn_calling (c : Cache) (provider : σ) {verb : Verb} (call : Call verb)
    (pending : Pending verb kind) :
    c.carryOn provider (.calling call pending) =
      let served := Provider.serve provider c.ns call
      let turn := c.resume pending served.1
      turn.cache.carryOn (Provider.accessAll served.2 turn.accesses) turn.result := by
  rw [carryOn]

/-- What each call of an operation preserves holds when the operation is finished. -/
theorem carryOn_invariant {P : Cache → σ → Progress kind → Prop}
    (hstep : ∀ c provider {verb : Verb} (call : Call verb) (pending : Pending verb kind),
      P c provider (.calling call pending) →
        let served := Provider.serve provider c.ns call
        let turn := c.resume pending served.1
        P turn.cache (Provider.accessAll served.2 turn.accesses) turn.result)
    {c : Cache} {provider : σ} {progress : Progress kind} (h : P c provider progress) :
    let performed := c.carryOn provider progress
    P performed.state performed.provider (.done performed.answer) := by
  fun_induction carryOn c provider progress with
  | case1 c provider answer => exact h
  | case2 c provider verb call pending outcome provider' hserve turn ih =>
    have hnext := hstep c provider call pending h
    rw [hserve] at hnext
    exact ih hnext

/-- What relates two operations, and goes on to relate them as both make a call of a verb, relates
them when they are finished. -/
theorem carryOn_related {κ : Kind}
    {P : Cache → σ → Progress kind → Cache → τ → Progress κ → Prop}
    (hdone : ∀ {c provider answer c' provider' progress'},
      P c provider (.done answer) c' provider' progress' → ∃ answer', progress' = .done answer')
    (hcall : ∀ {c provider verb call pending c' provider' progress'},
      P c provider (@Progress.calling _ verb call pending) c' provider' progress' →
        ∃ (call' : Call verb) (pending' : Pending verb κ), progress' = .calling call' pending' ∧
          let served := Provider.serve provider c.ns call
          let turn := c.resume pending served.1
          let served' := Provider.serve provider' c'.ns call'
          let turn' := c'.resume pending' served'.1
          P turn.cache (Provider.accessAll served.2 turn.accesses) turn.result
            turn'.cache (Provider.accessAll served'.2 turn'.accesses) turn'.result)
    {c : Cache} {provider : σ} {progress : Progress kind} {c' : Cache} {provider' : τ}
    {progress' : Progress κ} (h : P c provider progress c' provider' progress') :
    let performed := c.carryOn provider progress
    let performed' := c'.carryOn provider' progress'
    P performed.state performed.provider (.done performed.answer)
      performed'.state performed'.provider (.done performed'.answer) := by
  fun_induction carryOn c provider progress generalizing c' provider' progress' with
  | case1 c provider answer =>
    obtain ⟨answer', rfl⟩ := hdone h
    rw [carryOn_done]
    exact h
  | case2 c provider verb call pending outcome served hserve turn =>
    rename_i ih
    obtain ⟨call', pending', rfl, hnext⟩ := hcall h
    rw [hserve] at hnext
    rw [carryOn_calling]
    exact ih hnext

/-! ## The cache -/

/-- A later turn leaves the namespace, the owner and the configuration of a cache, and a store that
reports its failures. -/
theorem identity_resume (c : Cache) {verb : Verb} (pending : Pending verb kind)
    (outcome : verb.Outcome) :
    (c.resume pending outcome).cache.identity = c.identity ∧
      (c.store.Reporting → (c.resume pending outcome).cache.store.Reporting) := by
  cases resumed (Eq.refl (c.resume pending outcome)) with
  | completed _ hcompleted hi => exact ⟨hi, hcompleted.reporting⟩
  | quiet _ hquiet =>
    refine ⟨hquiet.identity, ?_⟩
    rw [hquiet.store]
    exact id

/-- So does an operation by itself. -/
theorem identity_perform (c : Cache) (provider : σ) (operation : Operation kind)
    (hr : c.store.Reporting) :
    (c.perform provider operation).state.identity = c.identity ∧
      (c.perform provider operation).state.store.Reporting := by
  obtain ⟨fetch, hstart⟩ := starts (Eq.refl (c.start (Provider.view provider) operation)) hr
  refine carryOn_invariant
    (P := fun c' _ _ ↦ c'.identity = c.identity ∧ c'.store.Reporting) ?_ ?_
  · intro c' provider' verb call pending h
    obtain ⟨hi, hr'⟩ := c'.identity_resume pending (Provider.serve provider' c'.ns call).1
    exact ⟨hi.trans h.1, hr' h.2⟩
  · exact ⟨hstart.identity, hstart.checked.reporting hr⟩

theorem identity_recordMiss (c : Cache) (fetch : Fetch) :
    (c.recordMiss fetch).identity = c.identity := by
  unfold recordMiss
  split <;> rfl

/-- A write that fails is counted. -/
def afterWrite (c : Cache) (ok : Bool) : Cache := if ok then c else c.record .remoteError

@[simp] theorem store_afterWrite (c : Cache) (ok : Bool) : (c.afterWrite ok).store = c.store := by
  cases ok <;> rfl

@[simp] theorem identity_afterWrite (c : Cache) (ok : Bool) :
    (c.afterWrite ok).identity = c.identity := by
  cases ok <;> rfl

theorem perform_put (c : Cache) (provider : σ) (request : PutRequest) :
    c.perform provider (.put request) =
      let served := Provider.serve provider c.ns (.put request)
      ⟨c.afterWrite served.1.isOk, served.2, served.1.isOk⟩ := by
  have hcarry : c.perform provider (.put request) =
      c.carryOn provider (.calling (.put request) .put) := rfl
  rw [hcarry, carryOn_calling]
  generalize Provider.serve provider c.ns (.put request) = served
  obtain ⟨_ | _, after⟩ := served <;> exact carryOn_done ..

theorem perform_reset (c : Cache) (provider : σ) (request : ResetRequest) :
    c.perform provider (.reset request) =
      let served := Provider.serve provider c.ns (.reset request)
      ⟨c.afterWrite served.1.isOk, served.2, served.1.isOk⟩ := by
  have hcarry : c.perform provider (.reset request) =
      c.carryOn provider (.calling (.reset request) .reset) := rfl
  rw [hcarry, carryOn_calling]
  generalize Provider.serve provider c.ns (.reset request) = served
  obtain ⟨_ | _, after⟩ := served <;> exact carryOn_done ..

end Cache

/-! ## The service -/

/-- Only writes make calls that change what the service holds. -/
theorem Pending.call_reads {verb : Verb} {kind : Kind} (pending : Pending verb kind)
    (hkind : kind ≠ .write) (call : Call verb) : call.reads = true := by
  cases pending with
  | get | query | list =>
    cases call
    rfl
  | put | reset => exact absurd rfl hkind

namespace Service

variable {kind : Kind}

theorem contents_perform (s : Service) (c : Cache) (operation : Operation kind)
    (hkind : kind ≠ .write) : (c.perform s operation).provider.contents = s.contents := by
  refine Cache.carryOn_invariant (P := fun _ (t : Service) _ ↦ t.contents = s.contents) ?_ ?_
  · intro c' t verb call pending h
    have hserve := contents_serve t c'.ns (pending.call_reads hkind call)
    exact (contents_accessAll ..).trans (hserve.trans h)
  · exact contents_accessAll ..

/-- An operation ticks. -/
theorem ticks_perform {s : Service} (hs : s.Slotted) (ns : Namespace) (c : Cache)
    (operation : Operation kind) : Ticks ns s (c.perform s operation).provider := by
  cases operation with
  | lookup name user => exact ticks_of_contents (contents_perform s c (.lookup name user) nofun) ns
  | list stem user => exact ticks_of_contents (contents_perform s c (.list stem user) nofun) ns
  | put request =>
    rw [Cache.perform_put]
    exact ticks_serve hs ns c.ns _
  | reset request =>
    rw [Cache.perform_reset]
    exact ticks_serve hs ns c.ns _

@[simp] theorem setup_perform (s : Service) (c : Cache) (operation : Operation kind) :
    (c.perform s operation).provider.setup = s.setup := by
  cases operation with
  | lookup name user => exact setup_of_contents (contents_perform s c (.lookup name user) nofun)
  | list stem user => exact setup_of_contents (contents_perform s c (.list stem user) nofun)
  | put request =>
    rw [Cache.perform_put]
    exact setup_serve ..
  | reset request =>
    rw [Cache.perform_reset]
    exact setup_serve ..

namespace AgreeOn

variable {part : Part} {s t : Service}

/-- Services that agree go on to agree if an operation on a namespace is carried out on both,
whatever the caches hold. -/
theorem perform (h : s.AgreeOn part t) {c c' : Cache} (hns : c.ns = c'.ns)
    (operation : Operation kind) :
    (c.perform s operation).provider.AgreeOn part (c'.perform t operation).provider := by
  cases operation with
  | lookup | list => exact h.congr (contents_perform s c _ nofun) (contents_perform t c' _ nofun)
  | put request =>
    rw [Cache.perform_put, Cache.perform_put, hns]
    exact h.serve c'.ns _
  | reset request =>
    rw [Cache.perform_reset, Cache.perform_reset, hns]
    exact h.serve c'.ns _

/-- An operation on a namespace outside the part changes nothing in it. -/
theorem perform_outside (s : Service) (hs : s.Slotted) {c : Cache}
    (hns : ∀ user, ¬ part c.ns user) (operation : Operation kind) :
    (c.perform s operation).provider.AgreeOn part s := by
  cases operation with
  | lookup | list => exact of_contents hs (contents_perform s c _ nofun)
  | put request =>
    rw [Cache.perform_put]
    exact serve_outside s hs hns _
  | reset request =>
    rw [Cache.perform_reset]
    exact serve_outside s hs hns _

end AgreeOn

end Service

end SettingsCache
