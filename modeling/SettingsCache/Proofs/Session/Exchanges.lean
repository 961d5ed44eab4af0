import SettingsCache.Proofs.Session.Answers
import SettingsCache.Proofs.Session.Requests

/-!
# What passes between a cache and a provider

A transcript keeps each call together with what came of it. It tells why a lookup fails: every way
of reading that the configuration enables was tried, one after the other, and failed. The error is
that of the last one (`Cache.lookup_eq_error_iff`).
-/

namespace SettingsCache

/-! ## Transcripts -/

/-- The setting that a call reads, if it reads a single one. -/
def Call.name? {verb : Verb} : Call verb → Option String
  | .get request => some request.name
  | .query name _ => some name
  | .put _ | .list _ | .reset _ => none

/-- Why a call about a namespace brought nothing, if so. A fast read may come back without a
reply. -/
def Verb.failure? (ns : Namespace) : (verb : Verb) → verb.Outcome → Option RemoteError
  | .get, .ok none => some (.communication (ns.method .get) "empty reply")
  | _, .ok _ => none
  | _, .error e => some e

/-- A call about a namespace and what came of it. -/
structure Exchange where
  ns : Namespace
  {verb : Verb}
  call : Call verb
  outcome : verb.Outcome

/-- Why an exchange brought nothing, if so. -/
def Exchange.failure? (x : Exchange) : Option RemoteError := x.verb.failure? x.ns x.outcome

/-- A provider and all that passed between it and the caches, oldest first. -/
structure Transcribed (σ : Type) where
  provider : σ
  exchanges : List Exchange := []

instance {σ : Type} [Provider σ] : Provider (Transcribed σ) where
  serve transcribed ns call :=
    let served := Provider.serve transcribed.provider ns call
    (served.1, ⟨served.2, transcribed.exchanges ++ [⟨ns, call, served.1⟩]⟩)
  view transcribed := Provider.view transcribed.provider
  access transcribed access :=
    { transcribed with provider := Provider.access transcribed.provider access }

namespace Transcribed

variable {σ : Type} [Provider σ]

theorem underlying : Provider.Underlying (Transcribed.provider : Transcribed σ → σ) where
  serve _ _ _ _ := rfl
  view _ := rfl
  access _ _ := rfl

theorem exchanges_accessAll (transcribed : Transcribed σ) (accesses : List Access) :
    (Provider.accessAll transcribed accesses).exchanges = transcribed.exchanges := by
  induction accesses generalizing transcribed with
  | nil => rfl
  | cons access rest ih => exact ih (Provider.access transcribed access)

end Transcribed

/-- What passes between a cache and a provider while an operation is carried out. -/
def Cache.exchanges {σ : Type} [Provider σ] (c : Cache) (provider : σ) {kind : Kind}
    (operation : Operation kind) : List Exchange :=
  (c.perform ({ provider := provider } : Transcribed σ) operation).provider.exchanges

/-! ## Paths -/

/-- The ways of reading a setting that a configuration enables, in the order they are tried. -/
def Config.paths (config : Config) : List Verb :=
  (if config.fastPath then [.get] else []) ++ if config.fallback then [.query] else []

/-- Each of some ways of reading a setting was tried and failed, the last one with an error. -/
structure EveryPathFailed (ns : Namespace) (name : String) (paths : List Verb)
    (exchanges : List Exchange) (e : RemoteError) : Prop where
  tried : exchanges.map Exchange.verb = paths
  asked : ∀ x ∈ exchanges, x.ns = ns ∧ x.call.name? = some name
  failed : ∀ x ∈ exchanges, x.failure? ≠ none
  last : exchanges.getLast?.bind Exchange.failure? = some e

namespace EveryPathFailed

variable {ns : Namespace} {name : String} {paths : List Verb} {x : Exchange} {rest : List Exchange}
  {e e' : RemoteError}

/-- Only one way was tried. -/
theorem singleton_iff (hns : x.ns = ns) (hname : x.call.name? = some name) :
    EveryPathFailed ns name [x.verb] [x] e ↔ x.failure? = some e := by
  constructor
  · exact fun h ↦ h.last
  · intro h
    refine ⟨rfl, ?_, ?_, h⟩
    · intro y hy
      rw [List.mem_singleton.mp hy]
      exact ⟨hns, hname⟩
    · intro y hy
      rw [List.mem_singleton.mp hy, h]
      exact Option.some_ne_none e

/-- After a way that failed, it depends on the others. -/
theorem cons_iff (hns : x.ns = ns) (hname : x.call.name? = some name)
    (hfailure : x.failure? = some e') (hpaths : paths ≠ []) :
    EveryPathFailed ns name (x.verb :: paths) (x :: rest) e ↔
      EveryPathFailed ns name paths rest e := by
  have hlast (hrest : rest ≠ []) : (x :: rest).getLast? = rest.getLast? := by
    obtain ⟨y, rest', rfl⟩ := List.exists_cons_of_ne_nil hrest
    exact List.getLast?_cons_cons
  constructor
  · rintro ⟨tried, asked, failed, last⟩
    have htried : rest.map Exchange.verb = paths := (List.cons.inj tried).2
    have hrest : rest ≠ [] := fun hnil ↦ hpaths (htried.symm.trans (by rw [hnil]; rfl))
    rw [hlast hrest] at last
    exact ⟨htried, fun y hy ↦ asked y (List.mem_cons_of_mem _ hy),
      fun y hy ↦ failed y (List.mem_cons_of_mem _ hy), last⟩
  · rintro ⟨tried, asked, failed, last⟩
    have hrest : rest ≠ [] := fun hnil ↦ hpaths (tried.symm.trans (by rw [hnil]; rfl))
    refine ⟨congrArg _ tried, ?_, ?_, ?_⟩
    · exact List.forall_mem_cons.mpr ⟨⟨hns, hname⟩, asked⟩
    · exact List.forall_mem_cons.mpr ⟨hfailure ▸ Option.some_ne_none e', failed⟩
    · rw [hlast hrest]
      exact last

theorem not_of_brought (hmem : x ∈ rest) (hbrought : x.failure? = none) :
    ¬ EveryPathFailed ns name paths rest e := fun h ↦ h.failed x hmem hbrought

end EveryPathFailed

/-! ## Lookups that fail -/

section Lookups

variable {σ : Type} [Provider σ]

/-- From a provider on, ways of reading are tried, and there is an error just if each of them
fails. -/
def Tries (ns : Namespace) (name : String) (paths : List Verb) (before : Transcribed σ)
    (performed : Performed Cache (Transcribed σ) Kind.lookup.Answer) : Prop :=
  ∃ exchanges, performed.provider.exchanges = before.exchanges ++ exchanges ∧
    ∀ e, performed.answer = .error e ↔ EveryPathFailed ns name paths exchanges e

namespace Cache

/-- A way that was tried last settles the lookup. -/
theorem tries_last (c : Cache) {t t' : Transcribed σ} {x : Exchange} {name : String}
    {answer : Kind.lookup.Answer} {accesses : List Access}
    (hexchanges : t'.exchanges = t.exchanges ++ [x]) (hname : x.call.name? = some name)
    (hanswer : ∀ e, answer = .error e ↔ x.failure? = some e) :
    Tries x.ns name [x.verb] t (c.carryOn (Provider.accessAll t' accesses) (.done answer)) := by
  rw [carryOn_done]
  refine ⟨[x], ?_, fun e ↦ ?_⟩
  · exact (Transcribed.exchanges_accessAll ..).trans hexchanges
  · exact (hanswer e).trans (EveryPathFailed.singleton_iff rfl hname).symm

theorem tries_query (c : Cache) (t : Transcribed σ) (fetch : Fetch) (name : String) :
    Tries c.ns name [.query] t
      (c.carryOn t (.calling (.query name fetch.user) (.query name fetch))) := by
  rw [carryOn_calling]
  dsimp only [Provider.serve]
  generalize Provider.serve t.provider c.ns (.query name fetch.user) = served
  obtain ⟨e | row, after⟩ := served
  · refine tries_last (x := ⟨c.ns, .query name fetch.user, .error e⟩) _ rfl rfl fun e' ↦ ?_
    exact (Except.error.injEq e e').to_iff.trans (Option.some.injEq e e').to_iff.symm
  · refine tries_last (x := ⟨c.ns, .query name fetch.user, .ok row⟩) _ rfl rfl fun e' ↦ ?_
    exact iff_of_false (nomatch ·) (nomatch ·)

/-- A lookup whose fast read has failed tries a query if there are any. -/
theorem tries_fallBack (c : Cache) {t t' : Transcribed σ} {x : Exchange} (fetch : Fetch)
    {name : String} {e : RemoteError} (hns : x.ns = c.ns)
    (hexchanges : t'.exchanges = t.exchanges ++ [x]) (hname : x.call.name? = some name)
    (hfailure : x.failure? = some e) :
    let turn := c.fallBack fetch name e
    Tries c.ns name (x.verb :: if c.config.fallback then [.query] else []) t
      (turn.cache.carryOn (Provider.accessAll t' turn.accesses) turn.result) := by
  unfold fallBack
  split
  · obtain ⟨rest, hrest, htries⟩ := tries_query (c.record .fallbackQuery) t' fetch name
    refine ⟨x :: rest, ?_, fun e' ↦ ?_⟩
    · refine hrest.trans ?_
      rw [hexchanges, List.append_assoc]
      rfl
    · exact (htries e').trans
        (EveryPathFailed.cons_iff hns hname hfailure (List.cons_ne_nil _ _)).symm
  · rw [← hns]
    refine tries_last c hexchanges hname fun e' ↦ ?_
    rw [hfailure]
    exact (Except.error.injEq e e').to_iff.trans (Option.some.injEq e e').to_iff.symm

theorem tries_get (c : Cache) (t : Transcribed σ) (fetch : Fetch) (name : String) (track : Bool) :
    Tries c.ns name (.get :: if c.config.fallback then [.query] else []) t
      (c.carryOn t (.calling (.get ⟨name, fetch.user, track⟩) (.get name fetch))) := by
  rw [carryOn_calling]
  dsimp only [Provider.serve]
  generalize Provider.serve t.provider c.ns (.get ⟨name, fetch.user, track⟩) = served
  obtain ⟨e | _ | reply, after⟩ := served
  · exact tries_fallBack (x := ⟨c.ns, .get ⟨name, fetch.user, track⟩, .error e⟩)
      (c.record .remoteError) fetch rfl rfl rfl rfl
  · exact tries_fallBack (x := ⟨c.ns, .get ⟨name, fetch.user, track⟩, .ok none⟩)
      c fetch rfl rfl rfl rfl
  · dsimp only [resume, completeLookup, Turn.bind]
    rw [carryOn_done]
    refine ⟨[⟨c.ns, .get ⟨name, fetch.user, track⟩, .ok (some reply)⟩],
      Transcribed.exchanges_accessAll .., fun e ↦ iff_of_false (nomatch ·) ?_⟩
    exact EveryPathFailed.not_of_brought (List.mem_singleton.mpr rfl) rfl

/-- A lookup that goes out tries every way that a valid configuration enables. -/
theorem tries_goOutForLookup (c : Cache) (hvalid : c.config.validate = .ok ())
    (t : Transcribed σ) (fetch : Fetch) (name : String) :
    let turn := c.goOutForLookup fetch name
    Tries c.ns name c.config.paths t
      (turn.cache.carryOn (Provider.accessAll t turn.accesses) turn.result) := by
  unfold goOutForLookup Config.paths
  split
  · exact tries_get (c.record .fastPathCall) t fetch name _
  · next hfast =>
    have hfallback : c.config.fallback = true := by
      rw [← Bool.not_eq_false]
      intro hfallback
      rw [Config.validate, Bool.not_eq_true _ |>.mp hfast, hfallback] at hvalid
      cases hvalid
    unfold fallBack
    rw [if_pos hfallback, if_pos hfallback]
    exact tries_query (c.record .fallbackQuery) t fetch name

/-- A lookup fails just if every way of reading that is enabled was tried and failed. -/
theorem lookup_eq_error_iff (c : Cache) (hvalid : c.config.validate = .ok ()) (provider : σ)
    (name : String) (user : UserId) (e : RemoteError) :
    (c.perform provider (.lookup name user)).answer = .error e ↔
      EveryPathFailed c.ns name c.config.paths (c.exchanges provider (.lookup name user)) e := by
  have hunder := Transcribed.underlying.perform c ({ provider := provider } : Transcribed σ)
    (.lookup name user)
  have hanswer := congrArg Performed.answer hunder
  rw [hanswer, exchanges, perform_lookup]
  dsimp only
  have hidentity := identity_beginRead c
    (Provider.view ({ provider := provider } : Transcribed σ)) user
  generalize c.beginRead (Provider.view ({ provider := provider } : Transcribed σ)) user = begun
    at hidentity ⊢
  cases begun.cache.knownReading? begun.result name with
  | some reading =>
    refine iff_of_false (nomatch ·) fun h ↦ ?_
    have hlast := h.last
    rw [Transcribed.exchanges_accessAll] at hlast
    cases hlast
  | none =>
    have hout := (identity_recordMiss begun.cache begun.result).trans hidentity
    have htries := tries_goOutForLookup (begun.cache.recordMiss begun.result)
      (config_of_identity hout ▸ hvalid)
      (Provider.accessAll ({ provider := provider } : Transcribed σ) begun.accesses)
      begun.result name
    rw [ns_of_identity hout, config_of_identity hout] at htries
    obtain ⟨exchanges, hexchanges, hiff⟩ := htries
    rw [Transcribed.exchanges_accessAll, List.nil_append] at hexchanges
    dsimp only
    rw [hexchanges]
    exact hiff e

end Cache

end Lookups

end SettingsCache
