import Mathlib.Data.List.Forall2
import SettingsCache.Proofs.Overlap.Outstanding
import SettingsCache.Proofs.Session.Requests

/-!
# Users do not show to each other

The cache of one user is followed through two sessions that differ in what is written for other
users only. Nothing about the cache tells the two apart: it keeps the same, asks for the same and
answers its own user the same. What is read for other users passes the cache by.
-/

namespace SettingsCache

namespace Service

/-- Two services that hold the same for a user, their own, and whose blocks and handles are the
same. -/
structure SameFor (own : UserId) (s t : Service) : Prop where
  agree : s.AgreeOn (fun _ user ↦ user = own) t
  ownUser : s.ownUser = own
  block : s.block = t.block
  handles : s.handles = t.handles

namespace SameFor

variable {own : UserId} {s t : Service}

theorem access (h : s.SameFor own t) (access : Access) :
    (s.access access).SameFor own (t.access access) := by
  refine ⟨h.agree.congr (contents_access ..) (contents_access ..), ?_, ?_, ?_⟩
  · cases access <;> exact h.ownUser
  · cases access <;> simp only [Service.access, h.block]
  · cases access <;> exact h.handles

theorem accessAll (h : s.SameFor own t) (accesses : List Access) :
    (Provider.accessAll s accesses).SameFor own (Provider.accessAll t accesses) := by
  induction accesses generalizing s t with
  | nil => exact h
  | cons access rest ih => exact ih (h.access access)

theorem generation (h : s.SameFor own t) (ns : Namespace) : s.generation ns = t.generation ns := by
  unfold Service.generation
  rw [h.block]

theorem heard (h : s.SameFor own t) (ns : Namespace) {verb : Verb} (call : Call verb) :
    (s.heard ns call).SameFor own (t.heard ns call) := by
  refine ⟨h.agree.congr (contents_heard ..) (contents_heard ..), ?_, ?_, ?_⟩
  · cases call <;> exact h.ownUser
  · cases call <;> exact h.block
  · cases call <;> exact h.handles

/-- The two hand over the same. -/
theorem handOverIf (h : s.SameFor own t) (track : Bool) (ns : Namespace) (g : Generation) :
    (s.handOverIf track ns g).1 = (t.handOverIf track ns g).1 ∧
      (s.handOverIf track ns g).2.SameFor own (t.handOverIf track ns g).2 := by
  have hgiven : (s.handOverIf track ns g).1 = (t.handOverIf track ns g).1 ∧
      (s.handOverIf track ns g).2.block = (t.handOverIf track ns g).2.block ∧
      (s.handOverIf track ns g).2.handles = (t.handOverIf track ns g).2.handles := by
    unfold Service.handOverIf Service.handOver openHandle
    rw [h.agree.hasFault, h.block, h.handles, h.agree.trackerIndex]
    split
    · split
      · exact ⟨rfl, h.block, h.handles⟩
      · exact ⟨rfl, rfl, rfl⟩
    · exact ⟨rfl, h.block, h.handles⟩
  have hagree := h.agree.congr (contents_handOverIf s track ns g) (contents_handOverIf t track ns g)
  have hown : (s.handOverIf track ns g).2.ownUser = s.ownUser :=
    ownUser_of_contents (contents_handOverIf s track ns g)
  exact ⟨hgiven.1, hagree, hown.trans h.ownUser, hgiven.2.1, hgiven.2.2⟩

/-- Entries of another user make no difference. -/
theorem setTable (h : s.SameFor own t) {ns : Namespace} {user : UserId} {table table' : Table}
    (hsame : user = own → table = table') :
    (s.setTable ns user table).SameFor own (t.setTable ns user table') :=
  ⟨h.agree.setTable hsame, h.ownUser, h.block, h.handles⟩

theorem bump (h : s.SameFor own t) (ns : Namespace) : (s.bump ns).SameFor own (t.bump ns) := by
  refine ⟨h.agree.bump ns, h.ownUser, ?_, h.handles⟩
  unfold Service.bump
  rw [h.block]

/-- Whether a write goes through does not depend on what it writes, and what it writes for another
user makes no difference. -/
theorem put (h : s.SameFor own t) (ns : Namespace) {request request' : PutRequest}
    (huser : request'.user = request.user) (hsame : request.user = own → request' = request) :
    (s.serve ns (.put request)).1 = (t.serve ns (.put request')).1 ∧
      (s.serve ns (.put request)).2.SameFor own (t.serve ns (.put request')).2 := by
  have hheard : (s.heard ns (.put request)).SameFor own (t.heard ns (.put request')) :=
    h.heard ns (.put request)
  rw [serve_put, serve_put, huser, h.agree.hasFault]
  dsimp only
  split
  · exact ⟨rfl, hheard⟩
  · refine ⟨rfl, (hheard.setTable ?_).bump ns⟩
    intro hown
    obtain rfl := hsame hown
    unfold putTable
    rw [h.agree.table ns _ hown]

theorem reset (h : s.SameFor own t) (ns : Namespace) {request request' : ResetRequest}
    (huser : request'.user = request.user) (hsame : request.user = own → request' = request) :
    (s.serve ns (.reset request)).1 = (t.serve ns (.reset request')).1 ∧
      (s.serve ns (.reset request)).2.SameFor own (t.serve ns (.reset request')).2 := by
  have hheard : (s.heard ns (.reset request)).SameFor own (t.heard ns (.reset request')) :=
    h.heard ns (.reset request)
  rw [serve_reset, serve_reset, huser, h.agree.hasFault]
  dsimp only
  split
  · exact ⟨rfl, hheard⟩
  · refine ⟨rfl, (hheard.setTable ?_).bump ns⟩
    intro hown
    obtain rfl := hsame hown
    unfold resetTable
    rw [h.agree.table ns _ hown]

end SameFor

end Service

/-! ## Calls -/

/-- The user that a call reads for is its own, unnamed. -/
def Call.own {verb : Verb} : Call verb → Prop
  | .get request => request.user = none
  | .query _ user => user = none
  | .list request => request.user = none
  | .put _ | .reset _ => True

/-- Two outcomes of a call that differ at most in the values that it has read. -/
inductive Verb.Alike : {verb : Verb} → verb.Outcome → verb.Outcome → Prop
  | same {verb : Verb} (outcome : verb.Outcome) : Verb.Alike outcome outcome
  | got (value value' : Option String) (handOver : Option HandOver) :
      @Verb.Alike .get (.ok (some ⟨value, handOver⟩)) (.ok (some ⟨value', handOver⟩))
  | found (row row' : Option Row) : @Verb.Alike .query (.ok row) (.ok row')
  | listed (values values' : NameMap String) (handOver : Option HandOver) :
      @Verb.Alike .list (.ok ⟨values, handOver⟩) (.ok ⟨values', handOver⟩)

namespace Service.SameFor

variable {own : UserId} {s t : Service}

/-- Answered by either service, a call comes to the like, and to the same if it reads for the
user. -/
theorem serve (h : s.SameFor own t) (ns : Namespace) {verb : Verb} (call : Call verb) :
    Verb.Alike (s.serve ns call).1 (t.serve ns call).1 ∧
      (call.own → (s.serve ns call).1 = (t.serve ns call).1) ∧
      (s.serve ns call).2.SameFor own (t.serve ns call).2 := by
  have hheard := h.heard ns call
  have hown (user : Option UserId) (hnone : user = none) : t.requestUser user = own := by
    rw [hnone, ← h.agree.requestUser]
    exact h.ownUser
  cases call with
  | get request =>
    obtain ⟨hhandOver, hafter⟩ := hheard.handOverIf request.track ns (t.generation ns)
    rw [serve_get, serve_get, h.agree.requestUser]
    simp only [h.agree.hasFault, h.generation, hhandOver]
    split
    · exact ⟨.same _, fun _ ↦ rfl, hheard⟩
    · split
      · exact ⟨.same _, fun _ ↦ rfl, hheard⟩
      · split
        · exact ⟨.same _, fun _ ↦ rfl, hheard⟩
        · refine ⟨.got .., ?_, hafter⟩
          intro hnone
          rw [h.agree.value (hown _ hnone)]
  | query name user =>
    rw [serve_query, serve_query, h.agree.requestUser]
    simp only [h.agree.hasFault]
    split
    · exact ⟨.same _, fun _ ↦ rfl, hheard⟩
    · refine ⟨.found .., ?_, hheard⟩
      intro hnone
      unfold entry?
      rw [h.agree.table ns _ (hown _ hnone)]
  | list request =>
    obtain ⟨hhandOver, hafter⟩ := hheard.handOverIf request.track ns (t.generation ns)
    rw [serve_list, serve_list, h.agree.requestUser]
    simp only [h.agree.hasFault, h.generation, hhandOver]
    split
    · exact ⟨.same _, fun _ ↦ rfl, hheard⟩
    · refine ⟨.listed .., ?_, hafter⟩
      intro hnone
      rw [h.agree.table ns _ (hown _ hnone)]
  | put request =>
    obtain ⟨hsame, hafter⟩ := h.put ns (Eq.refl request.user) fun _ ↦ rfl
    exact ⟨hsame ▸ .same _, fun _ ↦ hsame, hafter⟩
  | reset request =>
    obtain ⟨hsame, hafter⟩ := h.reset ns (Eq.refl request.user) fun _ ↦ rfl
    exact ⟨hsame ▸ .same _, fun _ ↦ hsame, hafter⟩

/-- What is written from outside for another user makes no difference. -/
theorem insert (h : s.SameFor own t) (ns : Namespace) (user : UserId) (name : String)
    {text text' : Option String} (hsame : user = own → text = text') :
    (s.insert ns user name text).SameFor own (t.insert ns user name text') := by
  apply bump
  apply h.setTable
  intro hown
  rw [hsame hown, h.agree.table ns user hown]

/-- Nor does anything else that is done to both from outside. -/
theorem run (h : s.SameFor own t) (step : Scenario.ServiceStep) :
    (step.run s).2.SameFor own (step.run t).2 := by
  refine ⟨h.agree.run step, (ownUser_run s step).trans h.ownUser, ?_, ?_⟩
  · cases step with
    | insert ns user name text => exact (h.insert ns user name fun _ ↦ rfl).block
    | bump ns => exact (h.bump ns).block
    | call ns call => exact (h.serve ns call).2.2.block
    | closeHandle place =>
      dsimp only [Scenario.ServiceStep.run]
      rw [h.handles]
      split
      · exact (h.access (.close _)).block
      · exact h.block
    | setGeneration ns g => exact congrArg (·.write ns.slot g) h.block
    | failReads on => exact congrArg ({ · with failReads := on }) h.block
    | failClose on => exact congrArg ({ · with failClose := on }) h.block
    | _ => exact h.block
  · cases step with
    | call ns call => exact (h.serve ns call).2.2.handles
    | closeHandle place =>
      dsimp only [Scenario.ServiceStep.run]
      rw [h.handles]
      split <;> exact h.handles
    | _ => exact h.handles

end Service.SameFor

/-! ## Reads -/

/-- Two operations that have come equally far: both are finished, or both have made the same
call. -/
inductive Progress.Abreast {kind : Kind} : Progress kind → Progress kind → Prop
  | same (progress : Progress kind) : Abreast progress progress
  | done (answer answer' : kind.Answer) : Abreast (.done answer) (.done answer')

namespace Cache

variable {c : Cache} {verb : Verb} {kind : Kind}

/-- A read that may not be kept gives the handle that came with it back. -/
theorem complete_of_not_caching {fetch : Fetch} (h : fetch.caching = false)
    (handOver : Option HandOver) (keep : Store → Store) :
    c.complete fetch handOver keep =
      ⟨c, handOver.toList.map fun handOver ↦ .close handOver.handle, none⟩ := by
  unfold complete
  rw [h, if_neg Bool.false_ne_true]

/-- A read that may not be kept leaves the cache the same, whatever it has read. -/
theorem resume_alike {pending : Pending verb kind} {outcome outcome' : verb.Outcome}
    (h : Verb.Alike outcome outcome')
    (hforeign : ∀ fetch, pending.fetch? = some fetch → fetch.caching = false) :
    (c.resume pending outcome).cache = (c.resume pending outcome').cache ∧
      (c.resume pending outcome).accesses = (c.resume pending outcome').accesses ∧
      (c.resume pending outcome).result.Abreast (c.resume pending outcome').result := by
  cases h with
  | same => exact ⟨rfl, rfl, .same _⟩
  | got value value' handOver =>
    cases pending with
    | get name fetch =>
      simp only [resume, completeLookup, complete_of_not_caching (hforeign fetch rfl)]
      exact ⟨rfl, rfl, .done ..⟩
  | found row row' =>
    cases pending with
    | query name fetch =>
      simp only [resume, completeLookup, complete_of_not_caching (hforeign fetch rfl)]
      exact ⟨rfl, rfl, .done ..⟩
  | listed values values' handOver =>
    cases pending with
    | list stem fetch =>
      simp only [resume, completeListing, complete_of_not_caching (hforeign fetch rfl)]
      exact ⟨rfl, rfl, .done ..⟩

end Cache

namespace Outstanding

variable {c : Cache} {kind : Kind} {verb : Verb} {operation : Operation kind} {since : Nat}
  {call : Call verb} {pending : Pending verb kind} {noted : Option Generation}
  {outcome : Option verb.Outcome}

/-- A call of a read for the owner names no user. -/
theorem Fits.own (h : Fits c ⟨operation, since, call, pending, noted, outcome⟩)
    (hreader : operation.reader? = some c.owner) : call.own := by
  have hnone {user : UserId} {fetch : Fetch} (hf : fetch.For c user) (heq : user = c.owner) :
      fetch.user = none := by
    rw [hf.user_eq, heq, Scope.resolve, if_pos rfl]
    rfl
  cases h with
  | get hf | query hf | list hf => exact hnone hf (Option.some.inj hreader)
  | put | reset => trivial

/-- A read for another user may not be kept. -/
theorem Fits.foreign (h : Fits c ⟨operation, since, call, pending, noted, outcome⟩)
    (hreader : operation.reader? ≠ some c.owner) (fetch : Fetch)
    (hfetch : pending.fetch? = some fetch) : fetch.caching = false := by
  have hnone {user : UserId} {fetch : Fetch} (hf : fetch.For c user) (hne : user ≠ c.owner) :
      fetch.caching = false := by
    rw [hf.caching_eq, ← Bool.not_eq_true]
    exact fun hcaches ↦ hne (Cache.eq_owner_of_caches hcaches)
  cases h with
  | get hf | query hf | list hf =>
    cases hfetch
    exact hnone hf fun heq ↦ hreader (congrArg some heq)
  | put | reset => cases hfetch

end Outstanding

/-- The same read, carried out by a cache over either of two services: how far it has come. -/
structure SideBySide (start : Cache) {kind : Kind} (operation : Operation kind) (c : Cache)
    (recorded : Recorded Service) (progress : Progress kind) (c' : Cache)
    (recorded' : Recorded Service) (progress' : Progress kind) : Prop where
  identity : c.identity = start.identity
  cache : c' = c
  service : recorded.provider.SameFor start.owner recorded'.provider
  requests : recorded'.requests = recorded.requests
  abreast : progress.Abreast progress'
  /-- A read for the owner comes to the same. -/
  own : operation.reader? = some start.owner → progress' = progress
  fits : ∀ o ∈ progress.outstanding operation 0, o.Fits start

namespace SideBySide

variable {start c c' : Cache} {kind : Kind} {operation : Operation kind}
  {recorded recorded' : Recorded Service} {progress' : Progress kind}

/-- When one is finished, both are. -/
theorem finished {answer : kind.Answer}
    (h : SideBySide start operation c recorded (.done answer) c' recorded' progress') :
    ∃ answer', progress' = .done answer' := by
  cases h.abreast with
  | same => exact ⟨_, rfl⟩
  | done => exact ⟨_, rfl⟩

/-- The two go on side by side as a call of theirs is answered. -/
theorem call {verb : Verb} {call : Call verb} {pending : Pending verb kind}
    (h : SideBySide start operation c recorded (.calling call pending) c' recorded' progress') :
    ∃ (call' : Call verb) (pending' : Pending verb kind), progress' = .calling call' pending' ∧
      let served := Provider.serve recorded c.ns call
      let turn := c.resume pending served.1
      let served' := Provider.serve recorded' c'.ns call'
      let turn' := c'.resume pending' served'.1
      SideBySide start operation turn.cache (Provider.accessAll served.2 turn.accesses) turn.result
        turn'.cache (Provider.accessAll served'.2 turn'.accesses) turn'.result := by
  obtain ⟨hidentity, rfl, hservice, hrequests, habreast, hown, hfits⟩ := h
  cases habreast with
  | same =>
    refine ⟨call, pending, rfl, ?_⟩
    intro served turn served' turn'
    have hcall := hfits _ (List.mem_singleton_self _)
    obtain ⟨halike, hsame, hafter⟩ := hservice.serve c'.ns call
    have hturn : turn.cache = turn'.cache ∧ turn.accesses = turn'.accesses ∧
        turn.result.Abreast turn'.result ∧
        (operation.reader? = some start.owner → turn'.result = turn.result) := by
      by_cases hreader : operation.reader? = some start.owner
      · have heq : turn' = turn := congrArg (c'.resume pending) (hsame (hcall.own hreader)).symm
        rw [heq]
        exact ⟨rfl, rfl, .same _, fun _ ↦ rfl⟩
      · obtain ⟨hcache, haccesses, hresult⟩ :=
          c'.resume_alike halike fun fetch ↦ hcall.foreign hreader fetch
        exact ⟨hcache, haccesses, hresult, fun h ↦ absurd h hreader⟩
    obtain ⟨hcache, haccesses, hresult, hown'⟩ := hturn
    refine ⟨(c'.identity_resume pending served.1).1.trans hidentity, hcache.symm, ?_, ?_, hresult,
      hown', ?_⟩
    · rw [Recorded.provider_accessAll, Recorded.provider_accessAll, haccesses]
      exact hafter.accessAll _
    · rw [Recorded.requests_accessAll, Recorded.requests_accessAll]
      exact congrArg (· ++ [⟨c'.ns, call⟩]) hrequests
    · have hfits' := (hcall.congr hidentity).answer none (some served.1)
      exact fun o ho ↦ (hfits'.called_of_resume o ho).fits.congr hidentity.symm

end SideBySide

namespace Service.SameFor

/-- A read over either of two services that hold the same for the owner of the cache leaves the same
cache and asks for the same. If it is for the owner, it is answered the same. -/
theorem perform {s t : Service} {c : Cache} (h : s.SameFor c.owner t) (hr : c.store.Reporting)
    {kind : Kind} (operation : Operation kind) :
    let performed := c.perform ({ provider := s } : Recorded Service) operation
    let performed' := c.perform ({ provider := t } : Recorded Service) operation
    performed'.state = performed.state ∧
      performed.provider.provider.SameFor c.owner performed'.provider.provider ∧
      performed'.provider.requests = performed.provider.requests ∧
      (operation.reader? = some c.owner → performed'.answer = performed.answer) := by
  intro performed performed'
  have hview : Provider.view t = Provider.view s := congrArg Faulty.view h.block.symm
  obtain ⟨fetch, hstart⟩ := Cache.starts (Eq.refl (c.start (Provider.view s) operation)) hr
  have hbegin : SideBySide c operation (c.start (Provider.view s) operation).cache
      (Provider.accessAll { provider := s } (c.start (Provider.view s) operation).accesses)
      (c.start (Provider.view s) operation).result (c.start (Provider.view t) operation).cache
      (Provider.accessAll { provider := t } (c.start (Provider.view t) operation).accesses)
      (c.start (Provider.view t) operation).result := by
    rw [hview]
    refine ⟨hstart.identity, rfl, ?_, ?_, .same _, fun _ ↦ rfl, ?_⟩
    · rw [Recorded.provider_accessAll, Recorded.provider_accessAll]
      exact h.accessAll _
    · rw [Recorded.requests_accessAll, Recorded.requests_accessAll]
    · exact fun o ho ↦ (Outstanding.called_of_opened hstart.opened 0 o ho).fits
  have hend := Cache.carryOn_related (fun hdone ↦ hdone.finished) (fun hcall ↦ hcall.call) hbegin
  refine ⟨hend.cache, hend.service, hend.requests, ?_⟩
  exact fun hreader ↦ Progress.done.inj (hend.own hreader)

end Service.SameFor

/-! ## Whole sessions -/

/-- Two writes of one setting of another user, which may differ in what they write. -/
structure PutRequest.Varies (own : UserId) (request request' : PutRequest) : Prop where
  foreign : request.user ≠ own
  user : request'.user = request.user
  name : request'.name = request.name

/-- Two resets for another user, which may differ in what they reset. -/
structure ResetRequest.Varies (own : UserId) (request request' : ResetRequest) : Prop where
  foreign : request.user ≠ own
  user : request'.user = request.user

/-- Two events that differ at most in what is written for other users. -/
inductive Event.Varies (own : UserId) : Event → Event → Prop
  | same (event : Event) : Varies own event event
  | put {request request' : PutRequest} (h : request.Varies own request') :
      Varies own (.operate (.put request)) (.operate (.put request'))
  | reset {request request' : ResetRequest} (h : request.Varies own request') :
      Varies own (.operate (.reset request)) (.operate (.reset request'))
  | insert (ns : Namespace) {user : UserId} (name : String) (text text' : Option String)
      (h : user ≠ own) :
      Varies own (.change (.insert ns user name text)) (.change (.insert ns user name text'))
  | putDirectly (ns : Namespace) {request request' : PutRequest} (h : request.Varies own request') :
      Varies own (.change (.call ns (.put request))) (.change (.call ns (.put request')))
  | resetDirectly (ns : Namespace) {request request' : ResetRequest}
      (h : request.Varies own request') :
      Varies own (.change (.call ns (.reset request))) (.change (.call ns (.reset request')))

namespace Session

/-- Two sessions of one cache whose services hold the same for its owner. -/
structure SameFor (s t : Session) : Prop where
  cache : t.cache = s.cache
  reporting : s.cache.store.Reporting
  service : s.service.SameFor s.cache.owner t.service

variable {s t : Session}

theorem readsAt_put (s : Session) (request : PutRequest) :
    s.readsAt (.operate (.put request)) = [] := by
  dsimp only [readsAt, requests]
  rw [Cache.perform_put]
  rfl

theorem readsAt_reset (s : Session) (request : ResetRequest) :
    s.readsAt (.operate (.reset request)) = [] := by
  dsimp only [readsAt, requests]
  rw [Cache.perform_reset]
  rfl

/-- What a cache does with an operation does not tell the services apart. -/
theorem SameFor.operate (h : s.SameFor t) {kind : Kind} (operation : Operation kind) :
    (s.next (.operate operation)).SameFor (t.next (.operate operation)) ∧
      t.requests operation = s.requests operation ∧
      (operation.reader? = some s.cache.owner →
        (t.cache.perform t.service operation).answer =
          (s.cache.perform s.service operation).answer) := by
  obtain ⟨hstate, hservice, hrequests, hanswer⟩ := h.service.perform h.reporting operation
  obtain ⟨hs, hs', hs''⟩ := Recorded.perform s.cache { provider := s.service } operation
  obtain ⟨ht, ht', ht''⟩ := Recorded.perform s.cache { provider := t.service } operation
  obtain ⟨hidentity, hreporting⟩ := s.cache.identity_perform s.service operation h.reporting
  have howner : (s.cache.perform s.service operation).state.owner = s.cache.owner :=
    Cache.owner_of_identity hidentity
  rw [hs', ht', ← howner] at hservice
  rw [hs, ht] at hstate
  rw [hs'', ht''] at hanswer
  obtain ⟨cache, service⟩ := t
  obtain rfl : cache = s.cache := h.cache
  exact ⟨⟨hstate, hreporting, hservice⟩, hrequests, hanswer⟩

/-- A write that is perhaps counted as failed leaves all else of the cache. -/
theorem SameFor.afterWrite {c : Cache} (hr : c.store.Reporting) {service service' : Service}
    (h : service.SameFor c.owner service') (ok : Bool) :
    SameFor ⟨c.afterWrite ok, service⟩ ⟨c.afterWrite ok, service'⟩ := by
  have howner : (c.afterWrite ok).owner = c.owner :=
    Cache.owner_of_identity (c.identity_afterWrite ok)
  refine ⟨rfl, ?_, ?_⟩
  · rw [Cache.store_afterWrite]
    exact hr
  · rw [howner]
    exact h

/-- An event does not tell the services apart. -/
theorem SameFor.next (h : s.SameFor t) {event event' : Event}
    (varies : event.Varies s.cache.owner event') :
    (s.next event).SameFor (t.next event') ∧ t.readsAt event' = s.readsAt event := by
  cases varies with
  | same event =>
    cases event with
    | operate operation =>
      obtain ⟨hnext, hrequests, -⟩ := h.operate operation
      exact ⟨hnext, congrArg (·.filter (·.call.reads)) hrequests⟩
    | clear =>
      refine ⟨⟨?_, nofun, ?_⟩, rfl⟩
      · exact congrArg (·.clear.cache) h.cache
      · dsimp only [Session.next]
        rw [h.cache]
        exact h.service.accessAll _
    | change step => exact ⟨⟨h.cache, h.reporting, h.service.run step⟩, rfl⟩
  | @put request request' hvaries =>
    obtain ⟨hsame, hafter⟩ := h.service.put s.cache.ns hvaries.user
      fun heq ↦ absurd heq hvaries.foreign
    refine ⟨?_, (readsAt_put t request').trans (readsAt_put s request).symm⟩
    rw [next_put, next_put, h.cache]
    dsimp only
    rw [← hsame]
    exact .afterWrite h.reporting hafter _
  | @reset request request' hvaries =>
    obtain ⟨hsame, hafter⟩ := h.service.reset s.cache.ns hvaries.user
      fun heq ↦ absurd heq hvaries.foreign
    refine ⟨?_, (readsAt_reset t request').trans (readsAt_reset s request).symm⟩
    rw [next_reset, next_reset, h.cache]
    dsimp only
    rw [← hsame]
    exact .afterWrite h.reporting hafter _
  | insert ns name text text' hforeign =>
    exact ⟨⟨h.cache, h.reporting, h.service.insert ns _ name fun heq ↦ absurd heq hforeign⟩, rfl⟩
  | putDirectly ns hvaries =>
    have hafter := (h.service.put ns hvaries.user fun heq ↦ absurd heq hvaries.foreign).2
    exact ⟨⟨h.cache, h.reporting, hafter⟩, rfl⟩
  | resetDirectly ns hvaries =>
    have hafter := (h.service.reset ns hvaries.user fun heq ↦ absurd heq hvaries.foreign).2
    exact ⟨⟨h.cache, h.reporting, hafter⟩, rfl⟩

theorem SameFor.play {own : UserId} {events events' : List Event} (h : s.SameFor t)
    (hown : s.cache.owner = own) (varies : List.Forall₂ (Event.Varies own) events events') :
    (s.play events).SameFor (t.play events') ∧ t.reads events' = s.reads events ∧
      (s.play events).cache.owner = own := by
  induction varies generalizing s t with
  | nil => exact ⟨h, rfl, hown⟩
  | @cons event event' rest rest' hevent hrest ih =>
    rw [← hown] at hevent
    obtain ⟨hnext, hreads⟩ := h.next hevent
    have howner : (s.next event).cache.owner = s.cache.owner :=
      Cache.owner_of_identity (identity_next h.reporting event).1
    obtain ⟨hplay, hreads', hown'⟩ := ih hnext (howner.trans hown)
    exact ⟨hplay, congrArg₂ (· ++ ·) hreads hreads', hown'⟩

/-- Events that differ in what is written for other users leave the same cache, which has asked for
the same and answers its owner the same. -/
theorem unaffected_by_others {start : Session}
    (hown : start.cache.owner = start.service.ownUser) (hslotted : start.service.Slotted)
    (hr : start.cache.store.Reporting) {events events' : List Event}
    (varies : List.Forall₂ (Event.Varies start.cache.owner) events events') :
    let first := start.play events
    let second := start.play events'
    second.cache = first.cache ∧ start.reads events' = start.reads events ∧
      ∀ {kind : Kind} (operation : Operation kind),
        operation.reader? = some start.cache.owner →
        (second.cache.perform second.service operation).answer =
          (first.cache.perform first.service operation).answer := by
  intro first second
  have hstart : start.SameFor start := ⟨rfl, hr, .refl hslotted, hown.symm, rfl, rfl⟩
  obtain ⟨hsame, hreads, howner⟩ := hstart.play rfl varies
  refine ⟨hsame.cache, hreads, ?_⟩
  intro kind operation hreader
  rw [← howner] at hreader
  exact (hsame.operate operation).2.2 hreader

/-- A lookup for the owner, then a write and a lookup for another user. -/
def writeForOther (text : String) : List Event :=
  [.operate (.lookup "wifi_on" .primary),
    .operate (.put ⟨"wifi_on", some text, ⟨10⟩, none, false⟩),
    .operate (.lookup "wifi_on" ⟨10⟩)]

theorem unaffected_by_others_writeForOther :
    let first := seeded.play (writeForOther "0")
    let second := seeded.play (writeForOther "1")
    second.cache = first.cache ∧
      (second.cache.perform second.service (.lookup "wifi_on" .primary)).answer =
        (first.cache.perform first.service (.lookup "wifi_on" .primary)).answer := by
  have hown : seeded.cache.owner = seeded.service.ownUser := rfl
  have slotted : seeded.service.Slotted := rfl
  have reporting : seeded.cache.store.Reporting := nofun
  have varies : List.Forall₂ (Event.Varies seeded.cache.owner) (writeForOther "0")
      (writeForOther "1") :=
    .cons (.same _) (.cons (.put ⟨by decide, rfl, rfl⟩) (.cons (.same _) .nil))
  obtain ⟨hcache, -, hanswer⟩ := unaffected_by_others hown slotted reporting varies
  exact ⟨hcache, hanswer (.lookup "wifi_on" .primary) rfl⟩

end Session

end SettingsCache
