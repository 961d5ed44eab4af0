import SettingsCache.Proofs.Coherence.Reads
import SettingsCache.Proofs.Session.Basic

/-!
# Coherence in a session

What the store of a cache holds was true of the service at some moment since the counter stood at
the generation that the store goes by, as in every run. `Store.Kept` adds what the tracker follows,
and `Session.Sound` is what every fair event preserves.
-/

namespace SettingsCache

open Service (Ticking bumps)

/-- A store that is coherent with what the service has been, and whose tracker follows the counter
of the namespace. -/
structure Store.Kept (history : List Service) (ns : Namespace) (user : UserId) (s : Store) :
    Prop where
  coherent : s.Coherent history ns user
  slot : ∀ t, s.tracker = some t → t.slot = ns.slot

namespace Store.Kept

variable {history : List Service} {ns : Namespace} {user : UserId} {s s' : Store}

theorem empty : Store.Kept history ns user {} := ⟨.of_empty rfl rfl, nofun⟩

theorem append (h : s.Kept history ns user) (later : List Service) :
    s.Kept (history ++ later) ns user := ⟨h.coherent.append later, h.slot⟩

/-- A check leaves a store that is kept. -/
theorem checked (h : s.Kept history ns user) {caching : Bool} {view : BlockView}
    {accesses : List Access} {g : Option Generation}
    (hchecked : Checked caching view s s' accesses g) : s'.Kept history ns user := by
  refine ⟨h.coherent.checked hchecked, ?_⟩
  intro t' ht'
  obtain ⟨t, ht, hslot, -⟩ := hchecked.tracker_eq ht'
  exact hslot.trans (h.slot t ht)

end Store.Kept

/-- What the present service holds has been true since the counter stood where it stands. -/
theorem TrueSince.of_last {history : List Service} {s : Service} {P : Service → Prop}
    (hlast : history.getLast? = some s) (ns : Namespace) (hP : P s) :
    TrueSince history ns (s.generation ns) P := by
  rw [List.getLast?_eq_getElem?] at hlast
  exact ⟨_, _, s, s, Nat.le_refl _, hlast, hlast, rfl, hP⟩

/-- What a finding says is as true of a service that holds the same. -/
theorem Finding.TrueOf.congr {ns : Namespace} {user : UserId} {s t : Service} {finding : Finding}
    (h : finding.TrueOf ns user s) (htables : s.tables.get ns = t.tables.get ns) :
    finding.TrueOf ns user t := by
  cases finding with
  | value name text => exact (Service.value_congr htables user name).symm.trans h
  | listing stem values =>
    intro name
    rw [h name, Service.value_congr htables]

/-- The completion of a read by what the present service answers leaves a store that is kept. -/
theorem Store.Kept.completed {history : List Service} {ns : Namespace} {user : UserId}
    {s s' : Store} (h : s.Kept history ns user) {service : Service}
    (hlast : history.getLast? = some service) {k : Completion} {accesses : List Access}
    {told : Option Generation} (hcompleted : Completed k s s' accesses told)
    (htrue : k.fetch.caching = true → k.finding.TrueOf ns user service)
    (htracker : ∀ t, k.tracker? = some t → t.slot = ns.slot ∧ t.accepted = service.generation ns)
    (hobserved : ∀ g, k.fetch.observed = some g → service.generation ns = g) :
    s'.Kept history ns user := by
  constructor
  · apply hcompleted.coherent h.coherent
    intro g htold
    rw [htold] at hcompleted
    obtain ⟨hcaching, hknown⟩ := hcompleted.told_eq
    have hg : service.generation ns = g := by
      rcases hknown with ⟨t, ht, haccepted⟩ | ⟨-, ho⟩
      · exact (htracker t ht).2.symm.trans haccepted
      · exact hobserved g ho
    rw [← hg]
    exact .of_last hlast ns (htrue hcaching)
  · intro t ht
    rcases hcompleted.tracker_eq ht with hold | hnew
    · exact h.slot t hold
    · exact (htracker t hnew).1

namespace Cache

variable {history : List Service} {s : Service} {c : Cache} {kind : Kind}

/-- A read that goes on leaves a store that is kept, if it began by where the counter stands. -/
theorem kept_resume (hlast : history.getLast? = some s) (honest : s.Honest c.ns)
    (hown : c.owner = s.ownUser) (hkept : c.store.Kept history c.ns c.owner)
    {operation : Operation kind} {since : Nat} {verb : Verb} {call : Call verb}
    {pending : Pending verb kind}
    (hfits : (⟨operation, since, call, pending, none, none⟩ : Outstanding).Fits c) {t : Service}
    (hcontents : t.contents = s.contents)
    (hobserved : ∀ fetch g, pending.fetch? = some fetch → fetch.observed = some g →
      s.generation c.ns = g) :
    (c.resume pending (t.serve c.ns call).1).cache.store.Kept history c.ns c.owner := by
  cases resumed (Eq.refl (c.resume pending (t.serve c.ns call).1)) with
  | quiet _ hquiet =>
    have hstore : (c.resume pending (t.serve c.ns call).1).cache.store = c.store := hquiet.store
    exact hstore ▸ hkept
  | @completed k told hk hcompleted _ =>
    have honest' : t.Honest c.ns := honest.congr (Service.setup_of_contents hcontents)
    have hanswered := hfits.answer none (some (t.serve c.ns call).1)
    have htrue := hanswered.found honest'.named hk
    obtain ⟨user, -, hf, hfetch⟩ := hanswered.fetch_for hk
    rw [hf.requestUser (hown.trans (Service.ownUser_of_contents hcontents).symm)] at htrue
    refine hkept.completed hlast hcompleted ?_ (fun tracker htracker ↦ ?_)
      fun g ↦ hobserved k.fetch g hfetch
    · intro hcaching
      rw [hf.caching_eq] at hcaching
      rw [← Cache.eq_owner_of_caches hcaching]
      exact htrue.congr (congrArg (·.get c.ns) (Service.tables_of_contents hcontents))
    · rw [← Service.generation_of_contents hcontents]
      exact hanswered.handed honest'.assigns hk htracker

/-- A read by itself leaves a store that is kept. -/
theorem kept_perform (hlast : history.getLast? = some s) (honest : s.Honest c.ns)
    (hown : c.owner = s.ownUser) (hr : c.store.Reporting)
    (hkept : c.store.Kept history c.ns c.owner) (operation : Operation kind)
    (hkind : kind ≠ .write) :
    (c.perform s operation).state.store.Kept history c.ns c.owner := by
  obtain ⟨fetch, hstart⟩ := starts (Eq.refl (c.start (Provider.view s) operation)) hr
  have hobserved (g : Generation) (hg : fetch.observed = some g) : s.generation c.ns = g := by
    have hchecked := hstart.checked
    rw [hg] at hchecked
    obtain ⟨t, ht, -, hview⟩ := hchecked.found
    rw [hkept.slot t ht] at hview
    exact Service.generation_of_view hview
  -- The calls are made as a call of the operation, by what it has observed in its first turn.
  refine (carryOn_invariant (P := fun c' (t : Service) progress ↦ c'.identity = c.identity ∧
    t.contents = s.contents ∧ c'.store.Kept history c.ns c.owner ∧
    ∀ o ∈ progress.outstanding operation 0, o.Called c (some fetch)) ?_ ?_).2.2.1
  · intro c' t verb call pending h
    obtain ⟨hi, hcontents, hkept', hcalled⟩ := h
    have hcall := hcalled _ (List.mem_singleton_self _)
    have hfits := hcall.fits.congr hi
    have hnext := (hfits.answer none (some (t.serve c'.ns call).1)).called_of_resume
    refine ⟨(c'.identity_resume pending _).1.trans hi, ?_, ?_, ?_⟩
    · have hserve := Service.contents_serve t c'.ns (pending.call_reads hkind call)
      exact (Service.contents_accessAll ..).trans (hserve.trans hcontents)
    · rw [← ns_of_identity hi] at honest hkept' hobserved ⊢
      rw [← owner_of_identity hi] at hown hkept' ⊢
      refine kept_resume hlast honest hown hkept' hfits hcontents fun f g hf hg ↦ ?_
      rw [Option.some.inj (hcall.fetch_eq f hf)] at hobserved
      exact hobserved g hg
    · intro o ho
      obtain ⟨hfits', hfetch⟩ := hnext o ho
      exact ⟨hfits'.congr hi.symm, fun f hf ↦ hcall.fetch_eq f (hfetch f hf)⟩
  · exact ⟨hstart.identity, Service.contents_accessAll .., hkept.checked hstart.checked,
      Outstanding.called_of_opened hstart.opened 0⟩

/-! ## Without fast reads -/

/-- Without a tracker nothing is known. -/
theorem start_of_untracked {c : Cache} (hnone : c.store.tracker = none) (view : BlockView) :
    (∀ name user, ∃ fetch : Fetch,
      c.start view (.lookup name user) = (c.recordMiss fetch).goOutForLookup fetch name) ∧
    ∀ stem user, ∃ fetch : Fetch,
      c.start view (.list stem user) = (c.recordMiss fetch).goOutForListing fetch stem := by
  have hbegin (user : UserId) : ∃ fetch : Fetch, fetch.observed = none ∧
      c.beginRead view user = ⟨c, [], fetch⟩ := by
    unfold beginRead sync
    rw [hnone]
    dsimp only
    split <;> exact ⟨_, rfl, rfl⟩
  refine ⟨fun name user ↦ ?_, fun stem user ↦ ?_⟩
  all_goals
    obtain ⟨fetch, hobserved, hbegun⟩ := hbegin user
    refine ⟨fetch, ?_⟩
    dsimp only [start]
    rw [hbegun]
    simp only [Turn.bind, knownReading?, knownListing?, hobserved]
    rfl

theorem verb_goOutForLookup {c : Cache} (hslow : c.config.fastPath = false) {fetch : Fetch}
    {name : String} {verb : Verb} {call : Call verb} {pending : Pending verb .lookup}
    (h : (c.goOutForLookup fetch name).result = .calling call pending) : verb = .query := by
  unfold goOutForLookup at h
  rw [if_neg (Bool.eq_false_iff.mp hslow)] at h
  obtain hfallBack | hfallBack := result_fallBack c fetch name (.unsupported (c.ns.method .get))
  · cases hfallBack.symm.trans h
  · cases hfallBack.symm.trans h
    rfl

theorem goOutForListing_of_slow {c : Cache} (hslow : c.config.fastPath = false) (fetch : Fetch)
    (stem : String) : (c.goOutForListing fetch stem).result =
      .done (.error (.unsupported (c.ns.method .list))) := by
  unfold goOutForListing
  rw [if_neg (Bool.eq_false_iff.mp hslow)]

/-- A hand-over comes with a fast read or a listing only. -/
theorem tracker_resume_of_other {c : Cache} (hnone : c.store.tracker = none) {verb : Verb}
    (pending : Pending verb kind) (outcome : verb.Outcome) (hverb : verb ≠ .get ∧ verb ≠ .list) :
    (c.resume pending outcome).cache.store.tracker = none ∧
      ∃ answer, (c.resume pending outcome).result = .done answer := by
  cases pending with
  | get => exact absurd rfl hverb.1
  | list => exact absurd rfl hverb.2
  | query name fetch =>
    rcases outcome with e | row
    · exact ⟨hnone, _, rfl⟩
    · refine ⟨?_, _, rfl⟩
      cases hcaching : fetch.caching <;>
        simp [resume, completeLookup, complete, adopt?, Turn.bind, generation, Store.generation,
          hnone, hcaching]
  | put | reset => rcases outcome with e | _ <;> exact ⟨hnone, _, rfl⟩

/-- The first turn of a cache that makes no fast reads asks for no tracker. -/
theorem start_of_slow {c : Cache} (hslow : c.config.fastPath = false)
    (hnone : c.store.tracker = none) (view : BlockView) (operation : Operation kind) :
    (c.start view operation).cache.store.tracker = none ∧
      ∀ {verb : Verb} (call : Call verb) pending,
        (c.start view operation).result = .calling call pending → verb ≠ .get ∧ verb ≠ .list := by
  have hmiss (fetch : Fetch) : (c.recordMiss fetch).config.fastPath = false := by
    unfold recordMiss
    split <;> exact hslow
  cases operation with
  | lookup name user =>
    obtain ⟨fetch, hstart⟩ := (start_of_untracked hnone view).1 name user
    rw [hstart]
    refine ⟨(congrArg Store.tracker (quiet_goOutForLookup c fetch name).store).trans hnone, ?_⟩
    intro verb call pending h
    obtain rfl := verb_goOutForLookup (hmiss fetch) h
    exact ⟨nofun, nofun⟩
  | list stem user =>
    obtain ⟨fetch, hstart⟩ := (start_of_untracked hnone view).2 stem user
    rw [hstart]
    refine ⟨(congrArg Store.tracker (quiet_goOutForListing c fetch stem).store).trans hnone, ?_⟩
    intro verb call pending h
    cases (goOutForListing_of_slow (hmiss fetch) fetch stem).symm.trans h
  | put | reset =>
    refine ⟨hnone, ?_⟩
    intro verb call pending h
    cases h
    exact ⟨nofun, nofun⟩

/-- A cache that makes no fast reads gets no tracker. -/
theorem tracker_perform_of_slow {σ : Type} [Provider σ] {c : Cache}
    (hslow : c.config.fastPath = false) (hnone : c.store.tracker = none) (provider : σ)
    (operation : Operation kind) :
    (c.perform provider operation).state.store.tracker = none := by
  obtain ⟨htracker, hverb⟩ := start_of_slow hslow hnone (Provider.view provider) operation
  refine (carryOn_invariant (P := fun c' (_ : σ) progress ↦ c'.store.tracker = none ∧
    ∀ {verb : Verb} (call : Call verb) pending, progress = .calling call pending →
      verb ≠ .get ∧ verb ≠ .list) ?_ ⟨htracker, hverb⟩).1
  intro c' provider' verb call pending h
  obtain ⟨htracker', answer, hdone⟩ := tracker_resume_of_other h.1 pending
    (Provider.serve provider' c'.ns call).1 (h.2 call pending rfl)
  refine ⟨htracker', ?_⟩
  rw [hdone]
  exact nofun

end Cache

/-! ## Whole sessions -/

namespace Session

/-- A cache of the service's own user that has kept nothing yet, over an honest service. -/
structure Opening (s : Session) : Prop where
  store : s.cache.store = {}
  own : s.cache.owner = s.service.ownUser
  honest : s.service.Honest s.cache.ns

/-- What holds of a session at every moment, the service having been in some states. -/
structure Sound (history : List Service) (s : Session) : Prop where
  reporting : s.cache.store.Reporting
  own : s.cache.owner = s.service.ownUser
  honest : s.service.Honest s.cache.ns
  ticking : Ticking s.cache.ns history
  last : history.getLast? = some s.service
  kept : s.cache.store.Kept history s.cache.ns s.cache.owner
  slow : s.cache.config.fastPath = false → s.cache.store.tracker = none

variable {history : List Service} {s : Session}

theorem Opening.sound (h : s.Opening) : s.Sound [s.service] where
  reporting := by
    rw [h.store]
    exact nofun
  own := h.own
  honest := h.honest
  ticking n _ _ _ hsecond := absurd hsecond.symm (by simp)
  last := rfl
  kept := by
    rw [h.store]
    exact .empty
  slow _ := by rw [h.store]

/-- What an operation makes of a store that is kept is kept. -/
theorem Sound.kept_operate (h : s.Sound history) {kind : Kind} (operation : Operation kind) :
    (s.cache.perform s.service operation).state.store.Kept history s.cache.ns s.cache.owner := by
  cases operation with
  | lookup name user =>
    exact s.cache.kept_perform h.last h.honest h.own h.reporting h.kept (.lookup name user) nofun
  | list stem user =>
    exact s.cache.kept_perform h.last h.honest h.own h.reporting h.kept (.list stem user) nofun
  | put request =>
    rw [Cache.perform_put, Cache.store_afterWrite]
    exact h.kept
  | reset request =>
    rw [Cache.perform_reset, Cache.store_afterWrite]
    exact h.kept

/-- A fair event keeps the service to its word, and it ticks. -/
theorem Sound.service_next (h : s.Sound history) {event : Event} (fair : event.Fair s.cache.ns) :
    (s.next event).service.Honest s.cache.ns ∧
      (s.next event).service.ownUser = s.service.ownUser ∧
      Service.Ticks s.cache.ns s.service (s.next event).service := by
  cases event with
  | operate operation =>
    have hsetup := Service.setup_perform s.service s.cache operation
    exact ⟨h.honest.congr hsetup, Service.ownUser_of_setup hsetup,
      Service.ticks_perform h.honest.slotted s.cache.ns s.cache operation⟩
  | clear =>
    have hsetup := Service.setup_accessAll s.service s.cache.clear.accesses
    exact ⟨h.honest.congr hsetup, Service.ownUser_of_setup hsetup, Service.ticks_accessAll ..⟩
  | change step =>
    exact ⟨h.honest.run fair, Service.ownUser_run s.service step,
      Service.ticks_run h.honest.slotted fair.orderly⟩

/-- A fair event leaves a sound session. -/
theorem Sound.next (h : s.Sound history) {event : Event} (fair : event.Fair s.cache.ns) :
    (s.next event).Sound (history ++ [(s.next event).service]) := by
  obtain ⟨hi, hreporting⟩ := identity_next h.reporting event
  have hns := ns_next h.reporting event
  have howner : (s.next event).cache.owner = s.cache.owner := Cache.owner_of_identity hi
  have hconfig : (s.next event).cache.config = s.cache.config := Cache.config_of_identity hi
  obtain ⟨honest, huser, hticks⟩ := h.service_next fair
  rw [← hns] at honest
  have hticking := h.ticking.concat fun t ht ↦ by
    rw [h.last, Option.some.injEq] at ht
    exact ht ▸ hticks
  rw [← hns] at hticking
  obtain ⟨hkept, hslow⟩ : (s.next event).cache.store.Kept history s.cache.ns s.cache.owner ∧
      (s.cache.config.fastPath = false → (s.next event).cache.store.tracker = none) := by
    cases event with
    | operate operation =>
      refine ⟨h.kept_operate operation, ?_⟩
      exact fun hslow ↦ Cache.tracker_perform_of_slow hslow (h.slow hslow) s.service operation
    | clear => exact ⟨.empty, fun _ ↦ rfl⟩
    | change => exact ⟨h.kept, h.slow⟩
  refine ⟨hreporting, (howner.trans h.own).trans huser.symm, honest, hticking,
    List.getLast?_concat, ?_, ?_⟩
  · rw [hns, howner]
    exact hkept.append _
  · rw [hconfig]
    exact hslow

/-- A session to which only fair things happen is sound at every moment. -/
theorem Sound.play (past : List Service) {events : List Event}
    (h : s.Sound (past ++ [s.service])) (fair : ∀ event ∈ events, event.Fair s.cache.ns) :
    (s.play events).Sound (past ++ s.history events) ∧
      (s.play events).cache.identity = s.cache.identity := by
  induction events generalizing s past with
  | nil => exact ⟨h, rfl⟩
  | cons event rest ih =>
    obtain ⟨hi, -⟩ := identity_next h.reporting event
    have hnext := h.next (fair event (List.mem_cons_self ..))
    have hrest : ∀ later ∈ rest, later.Fair (s.next event).cache.ns := by
      intro later hlater
      rw [ns_next h.reporting]
      exact fair later (List.mem_cons_of_mem _ hlater)
    obtain ⟨hsound, hidentity⟩ := ih _ hnext hrest
    rw [List.append_assoc] at hsound
    exact ⟨hsound, hidentity.trans hi⟩

end Session

end SettingsCache
