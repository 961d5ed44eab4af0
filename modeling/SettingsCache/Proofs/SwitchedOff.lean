import SettingsCache.Proofs.Handles.Open
import SettingsCache.Proofs.Isolation.Users
import SettingsCache.Proofs.Provenance

/-!
# Caches that keep nothing

Values are kept under a tracker only. With caching or tracking switched off a cache never asks for
one, so that it keeps nothing. With caching off it also passes by what it is handed unasked;
with tracking off alone it does not, and `Run.keepsNothing` has to rely on the provider for that.
-/

namespace SettingsCache

/-! ## What is asked for -/

/-- Whether an operation goes on by a call that asks for a hand-over. -/
def Progress.asks {kind : Kind} : Progress kind → Bool
  | .done _ => false
  | .calling call _ => call.track

namespace Cache

theorem asks_fallBack (c : Cache) (fetch : Fetch) (name : String) (e : RemoteError) :
    (c.fallBack fetch name e).result.asks = false := by
  unfold fallBack
  split <;> rfl

/-- A lookup that goes out asks if it wants a hand-over. -/
theorem asks_goOutForLookup {c : Cache} {fetch : Fetch} {name : String}
    (h : (c.goOutForLookup fetch name).result.asks) : c.wantsHandOver fetch := by
  unfold goOutForLookup at h
  split at h
  · exact h
  · rw [asks_fallBack] at h
    exact absurd h Bool.false_ne_true

/-- A listing that goes out asks if it wants a hand-over. -/
theorem asks_goOutForListing {c : Cache} {fetch : Fetch} {stem : String}
    (h : (c.goOutForListing fetch stem).result.asks) : c.wantsHandOver fetch := by
  unfold goOutForListing at h
  split at h
  · exact h
  · exact absurd h Bool.false_ne_true

/-- A read asks for a hand-over only if the cache is to keep values and to track them. -/
theorem wantsTracker_of_wantsHandOver {c : Cache} {view : BlockView} {user : UserId}
    (h : ((c.beginRead view user).cache.recordMiss (c.beginRead view user).result).wantsHandOver
      (c.beginRead view user).result) : c.config.wantsTracker := by
  have hconfig : ((c.beginRead view user).cache.recordMiss
      (c.beginRead view user).result).config = c.config := by
    refine Eq.trans ?_ (config_of_identity (identity_beginRead c view user))
    unfold recordMiss
    split <;> rfl
  unfold wantsHandOver at h
  rw [hconfig, (fetch_beginRead c view user).caching_eq, caches] at h
  simp only [Bool.and_eq_true] at h
  simp [Config.wantsTracker, h]

theorem asks_start {c : Cache} {view : BlockView} {kind : Kind} {operation : Operation kind}
    (h : (c.start view operation).result.asks) : c.config.wantsTracker := by
  cases operation with
  | lookup name user =>
    dsimp only [start, Turn.bind] at h
    split at h
    · exact absurd h Bool.false_ne_true
    · exact wantsTracker_of_wantsHandOver (asks_goOutForLookup h)
  | list stem user =>
    dsimp only [start, Turn.bind] at h
    split at h
    · exact absurd h Bool.false_ne_true
    · exact wantsTracker_of_wantsHandOver (asks_goOutForListing h)
  | put | reset => exact absurd h Bool.false_ne_true

theorem asks_resume (c : Cache) {verb : Verb} {kind : Kind} (pending : Pending verb kind)
    (outcome : verb.Outcome) : (c.resume pending outcome).result.asks = false := by
  cases pending <;> rcases outcome with e | reply
  case get.error => exact asks_fallBack ..
  case get.ok =>
    rcases reply with _ | reply
    · exact asks_fallBack ..
    · rfl
  all_goals rfl

end Cache

/-- A call that a turn has made asks for a hand-over just if the operation goes on so. -/
theorem Progress.track_of_mem_outstanding {kind : Kind} {operation : Operation kind} {since : Nat}
    {progress : Progress kind} {o : Outstanding} (h : o ∈ progress.outstanding operation since) :
    o.call.track = progress.asks := by
  obtain ⟨verb, call, pending, rfl, rfl⟩ := eq_of_mem_outstanding h
  rw [asks]

namespace Overlap

section Off

variable {σ : Type} {log : List (Moment σ)} {config : Config}

/-- The provider hands over nothing usable with what it answers to those calls of a cache's own user
that do not ask for it. -/
def Reticent (log : List (Moment σ)) : Prop :=
  ∀ m ∈ log, ∀ (verb : Verb) (call : Call verb) (outcome : verb.Outcome),
    m.deed = .answered call outcome → call.own → call.track = false →
      (verb.handOver? outcome).bind (Tracker.ofHandOver? ·) = none

/-- Caching is switched off, or tracking is and the provider hands over nothing usable unasked. -/
def SwitchedOff (config : Config) (log : List (Moment σ)) : Prop :=
  config.caching = false ∨ config.tracking = false ∧ Reticent log

theorem SwitchedOff.wantsTracker (off : SwitchedOff config log) :
    config.wantsTracker = false := by
  rcases off with h | ⟨h, -⟩ <;> simp [Config.wantsTracker, h]

theorem SwitchedOff.of_append {later : List (Moment σ)}
    (off : SwitchedOff config (log ++ later)) : SwitchedOff config log := by
  rcases off with h | ⟨h, hreticent⟩
  · exact .inl h
  · exact .inr ⟨h, fun m hm ↦ hreticent m (List.mem_append_left later hm)⟩

end Off

variable {σ : Type} [Provider σ] {moves : σ → σ → Prop} {start s s' : Overlap σ}
  {log : List (Moment σ)} {now : Nat} {deed : Deed}

/-- A cache that is not to track asks for no hand-over. -/
theorem Step.unasked (step : Step moves now s deed s')
    (hoff : s.cache.config.wantsTracker = false)
    (h : ∀ o ∈ s.outstanding, o.call.track = false) :
    ∀ o ∈ s'.outstanding, o.call.track = false := by
  refine step.forall_outstanding h (fun o ho _ _ _ _ ↦ h o ho) (fun o ho _ _ _ ↦ h o ho) ?_ ?_
  · intro kind operation turn hturn _ o ho
    rw [Progress.track_of_mem_outstanding ho, ← Bool.not_eq_true, hturn]
    intro hasks
    exact absurd (hoff.symm.trans (Cache.asks_start hasks)) Bool.false_ne_true
  · intro o _ outcome _ o' ho'
    rw [Progress.track_of_mem_outstanding ho', Cache.asks_resume]

theorem Run.unasked (run : Run moves start log s) (fresh : start.Fresh)
    (hoff : start.cache.config.wantsTracker = false) :
    ∀ o ∈ s.outstanding, o.call.track = false := by
  induction run with
  | nil =>
    intro o ho
    rw [fresh.outstanding] at ho
    exact absurd ho List.not_mem_nil
  | snoc run step ih =>
    apply step.unasked _ ih
    rw [Cache.config_of_identity (run.identity fresh)]
    exact hoff

/-! ## What is kept -/

/-- With caching or tracking switched off, a read that may use the store is handed no tracker. -/
theorem Run.tracker?_eq_none (run : Run moves start log s) (fresh : start.Fresh)
    (off : SwitchedOff start.cache.config log) {kind : Kind} {verb : Verb}
    {operation : Operation kind} {since : Nat} {call : Call verb} {pending : Pending verb kind}
    {noted : Option Generation} {outcome : verb.Outcome} {k : Completion}
    (hout : ⟨operation, since, call, pending, noted, some outcome⟩ ∈ s.outstanding)
    (hk : pending.completion? outcome = some k) (hc : k.fetch.caching = true) :
    k.tracker? = none := by
  have hsound := run.sound fresh _ hout
  obtain ⟨user, hreader, hf, -⟩ := hsound.fits.fetch_for hk
  rw [hf.caching_eq] at hc
  have hunasked := run.unasked fresh off.wantsTracker _ hout
  rcases off with hcaching | ⟨-, hreticent⟩
  · rw [← Cache.config_of_identity (run.identity fresh)] at hcaching
    exact absurd (hcaching.symm.trans (Bool.and_eq_true_iff.mp hc).2) Bool.false_ne_true
  · rw [Cache.eq_owner_of_caches hc] at hreader
    obtain ⟨t, m, -, hm, -, hdeed, -⟩ := hsound.answered outcome rfl
    have hnone := hreticent m (List.mem_of_getElem? hm) verb call outcome hdeed
      (hsound.fits.own hreader) hunasked
    rw [Pending.handOver_of_completion? hk] at hnone
    exact hnone

/-- With caching or tracking switched off, the store stays empty. -/
theorem Run.store_eq_empty (run : Run moves start log s) (fresh : start.Fresh)
    (off : SwitchedOff start.cache.config log) : s.cache.store = {} := by
  induction run with
  | nil => exact fresh.store
  | @snoc log s s' deed run step ih =>
    have hempty := ih off.of_append
    have heffect := step.effect (run.reporting fresh)
    generalize s'.cache.store = after at heffect
    cases heffect with
    | began h =>
      have hchecked := h.checked
      rw [hempty] at hchecked
      generalize Turn.cache _ = after, Turn.accesses _ = accesses, Fetch.observed _ = observed
        at hchecked ⊢
      generalize after.store = after at hchecked ⊢
      cases hchecked with
      | skipped => rfl
      | lost _ ht | moved _ ht | steady _ ht => cases ht
    | completed hout hk h =>
      rw [hempty] at h
      have htracker := run.tracker?_eq_none fresh off.of_append hout hk
      generalize Turn.cache _ = after, Turn.accesses _ = accesses at h ⊢
      generalize after.store = after at h ⊢
      cases h with
      | foreign | late => rfl
      | kept _ _ _ hg => cases hg
      | adopted hc ht => cases (htracker hc).symm.trans ht
    | quiet | noted | answered | moved => exact hempty
    | cleared => rfl

/-- A cache keeps nothing in a run: neither tracker nor values, so that every answer is the
provider's, nothing is asked for, and every handle is closed when its read goes on. -/
structure KeepsNothing (log : List (Moment σ)) (s : Overlap σ) : Prop where
  store : s.cache.store = {}
  earlier : ∀ m ∈ log, m.before.cache.store = {}
  unasked : ∀ m ∈ log, ∀ (verb : Verb) (call : Call verb) (outcome : verb.Outcome),
    m.deed = .answered call outcome → call.track = false
  lookups : ∀ (n : Nat) (m : Moment σ) (name : String) (user : UserId) (since : Nat)
    (reading : Reading), log[n]? = some m → m.deed.Ends n (.lookup name user) since (.ok reading) →
      reading.source ≠ .cache
  listings : ∀ (n : Nat) (m : Moment σ) (stem : String) (user : UserId) (since : Nat)
    (values : NameMap String), log[n]? = some m →
      m.deed.Ends n (.list stem user) since (.ok values) → since < n
  handles : ∀ h, (delivered log).count h = (closed log).count h + s.carried.count h

/-- With caching or tracking switched off a cache keeps nothing, however operations overlap: with
caching off whatever the provider sends, with tracking off as long as it sends nothing usable that
was not asked for. -/
theorem Run.keepsNothing (run : Run moves start log s) (fresh : start.Fresh)
    (off : SwitchedOff start.cache.config log) : KeepsNothing log s := by
  have hbefore {n : Nat} {m : Moment σ} (hm : log[n]? = some m) :
      m.before.cache.store = {} ∧ ∀ o ∈ m.before.outstanding, o.call.track = false := by
    obtain ⟨run', -⟩ := run.at hm
    refine ⟨run'.store_eq_empty fresh ?_, run'.unasked fresh off.wantsTracker⟩
    rw [← List.take_append_drop n log] at off
    exact off.of_append
  have hcurrent {n : Nat} {m : Moment σ} (hm : log[n]? = some m) (g : Generation) :
      ¬ m.Current g := by
    intro h
    have hgeneration := h.generation
    rw [(hbefore hm).1] at hgeneration
    cases hgeneration
  refine
    { store := run.store_eq_empty fresh off
      earlier := ?_
      unasked := ?_
      lookups := ?_
      listings := ?_
      handles := ?_ }
  · intro m hm
    obtain ⟨n, hn⟩ := List.mem_iff_getElem?.mp hm
    exact (hbefore hn).1
  · intro m hm verb call outcome hdeed
    obtain ⟨n, hn⟩ := List.mem_iff_getElem?.mp hm
    obtain ⟨-, s', step⟩ := run.at hn
    obtain ⟨before, deed⟩ := m
    subst hdeed
    cases step with
    | answer hout => exact (hbefore hn).2 _ (mem_of_eq_append_cons hout)
  · intro n m name user since reading hm h
    obtain ⟨value, g, -, -, -, hg, -⟩ | ⟨hsource, -⟩ := run.lookup_ended fresh hm h
    · exact absurd hg (hcurrent hm g)
    · exact hsource
  · intro n m stem user since values hm h
    obtain ⟨-, -, -, ⟨g, hg⟩, -⟩ | ⟨hout, -⟩ := run.list_ended fresh hm h
    · exact absurd hg (hcurrent hm g)
    · obtain ⟨run', -⟩ := run.at hm
      have hlt := (run'.sound fresh _ hout).since_lt
      exact Nat.lt_of_lt_of_le hlt (List.length_take_le ..)
  · intro h
    have hcount := run.count_handles fresh h
    rw [run.store_eq_empty fresh off, Store.owned_of_untracked rfl, List.count_nil] at hcount
    omega

/-- The service hands over nothing unasked, whatever else happens to it. -/
theorem Run.reticent {moves : Service → Service → Prop} {start s : Overlap Service}
    {log : List (Moment Service)} (run : Run moves start log s) : Reticent log := by
  intro m hm verb call outcome hdeed _ htrack
  obtain ⟨n, hn⟩ := List.mem_iff_getElem?.mp hm
  obtain ⟨-, s', step⟩ := run.at hn
  obtain ⟨before, deed⟩ := m
  subst hdeed
  cases step with
  | answer hout hanswer =>
    rw [hanswer, Service.handOver?_answer before.provider before.cache.ns _ htrack,
      Option.bind_none]

end Overlap

/-! ## A provider that hands over unasked -/

/-- The same read with a hand-over asked for. -/
def Call.asking {verb : Verb} : Call verb → Call verb
  | .get request => .get { request with track := true }
  | .list request => .list { request with track := true }
  | .query name user => .query name user
  | .put request => .put request
  | .reset request => .reset request

/-- A service that takes every read for one that asks for a hand-over. -/
structure Forthcoming where
  service : Service

instance : Provider Forthcoming where
  serve p ns call :=
    let (outcome, service) := p.service.serve ns call.asking
    (outcome, ⟨service⟩)
  view p := p.service.block.view
  access p access := ⟨p.service.access access⟩

namespace Overlap

/-- A new cache of the primary user over a provider. -/
def freshOver {σ : Type} (provider : σ) (config : Config) : Overlap σ :=
  ⟨{ ns := .global, owner := .primary, config }, provider, []⟩

/-- A lookup, and the same lookup again with its call, if it has to make one. -/
def lookupAgain : List Act :=
  [.begin (.lookup "wifi_on" .primary), .answer 0, .resume 0, .begin (.lookup "wifi_on" .primary),
    .answer 0, .resume 0]

theorem keepsNothing_lookupAgain :
    let uncached := freshOver (Forthcoming.mk Service.seeded) { caching := false }
    let untracked := freshOver Service.seeded { tracking := false }
    KeepsNothing (uncached.play [] lookupAgain).1 (uncached.play [] lookupAgain).2 ∧
      KeepsNothing (untracked.play [] lookupAgain).1 (untracked.play [] lookupAgain).2 := by
  intro uncached untracked
  have run : Run (fun _ _ ↦ False) uncached _ _ := Run.nil.play lookupAgain
  have run' : Run (fun _ _ ↦ False) untracked _ _ := Run.nil.play lookupAgain
  exact ⟨run.keepsNothing ⟨rfl, rfl⟩ (.inl rfl),
    run'.keepsNothing ⟨rfl, rfl⟩ (.inr ⟨rfl, run'.reticent⟩)⟩

/-- With tracking alone switched off, what is handed over unasked is adopted, and the value is kept
and served. -/
theorem kept_unasked_lookupAgain :
    ∃ log s m,
      Run (fun _ _ ↦ False) (freshOver (Forthcoming.mk Service.seeded) { tracking := false }) log
        s ∧
      s.cache.isTracking = true ∧ s.cache.store.values["wifi_on"]? = some (some "1") ∧
      log[3]? = some m ∧
      m.deed.Ends 3 (.lookup "wifi_on" .primary) 3 (.ok ⟨some "1", .cache, some 2⟩) :=
  ⟨_, _, _, Run.nil.play lookupAgain, rfl, rfl, rfl, .atOnce rfl⟩

end Overlap

end SettingsCache
