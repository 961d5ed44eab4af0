import SettingsCache.Proofs.Handles.Open

/-!
# The numbers of handles do not show

A cache passes handles on and never looks at their numbers. So two caches that differ in the number
of the tracker's handle only, over services that agree on the namespace, go on to differ in it only,
as long as both handles are open.
-/

namespace SettingsCache

/-! ## What is left if handles are blotted out -/

/-- A tracker without the number of its handle. -/
def Tracker.blind (t : Tracker) : Tracker := { t with handle := 0 }

/-- A hand-over without the number of its handle. -/
def HandOver.blind (h : HandOver) : HandOver := { h with handle := 0 }

/-- A cache without the number of its tracker's handle. -/
def Cache.blind (c : Cache) : Cache :=
  { c with store := { c.store with tracker := c.store.tracker.map Tracker.blind } }

/-- An outcome without the number of the handle that it brings. -/
def Verb.blind {verb : Verb} (outcome : verb.Outcome) : verb.Outcome :=
  match verb, outcome with
  | .get, .ok (some reply) =>
    .ok (some { reply with handOver := reply.handOver.map HandOver.blind })
  | .list, .ok reply => .ok { reply with handOver := reply.handOver.map HandOver.blind }
  | .get, .ok none => .ok none
  | .get, .error e => .error e
  | .list, .error e => .error e
  | .put, outcome | .query, outcome | .reset, outcome => outcome

/-- Without a hand-over there is no handle to blot out. -/
theorem Verb.blind_of_handOver? {verb : Verb} {outcome : verb.Outcome}
    (h : verb.handOver? outcome = none) : Verb.blind outcome = outcome := by
  cases verb with
  | get =>
    rcases outcome with e | _ | ⟨value, handOver⟩
    · rfl
    · rfl
    · obtain rfl : handOver = none := h
      rfl
  | list =>
    rcases outcome with e | ⟨values, handOver⟩
    · rfl
    · obtain rfl : handOver = none := h
      rfl
  | put | query | reset => rfl

namespace Turn

variable {α β : Type}

/-- What a turn comes to, without what it does to the block. -/
def bare (turn : Turn α) : Cache × α := (turn.cache, turn.result)

/-- What a turn comes to, without what it does to the block and without the number of the handle. -/
def seen (turn : Turn α) : Cache × α := (turn.cache.blind, turn.result)

end Turn

/-- What goes on from a cache without a look at the number of its tracker's handle. -/
def Blindly {α β : Type} (f : Cache → α → Turn β) : Prop :=
  ∀ c a, (f c a).seen = (f c.blind a).bare

theorem Blindly.bind {α β : Type} {f : Cache → α → Turn β} (hf : Blindly f) {turn turn' : Turn α}
    (h : turn.seen = turn'.bare) : (turn.bind f).seen = (turn'.bind f).bare := by
  obtain ⟨hcache, hresult⟩ := Prod.mk.inj h
  change (f turn.cache turn.result).seen = (f turn'.cache turn'.result).bare
  rw [hf, hcache, hresult]

/-- From turns that look the same it goes on to turns that look the same. -/
theorem Blindly.seen_bind {α β : Type} {f : Cache → α → Turn β} (hf : Blindly f)
    {turn turn' : Turn α} (h : turn.seen = turn'.seen) :
    (turn.bind f).seen = (turn'.bind f).seen := by
  obtain ⟨hcache, hresult⟩ := Prod.mk.inj h
  change (f turn.cache turn.result).seen = (f turn'.cache turn'.result).seen
  rw [hf, hf, hcache, hresult]

namespace Cache

@[simp] theorem generation_blind (c : Cache) : c.blind.generation = c.generation := by
  unfold generation Store.generation blind
  cases c.store.tracker <;> rfl

@[simp] theorem isTracking_blind (c : Cache) : c.blind.isTracking = c.isTracking := by
  unfold isTracking blind
  cases c.store.tracker <;> rfl

@[simp] theorem recordMiss_blind (c : Cache) (fetch : Fetch) :
    c.blind.recordMiss fetch = (c.recordMiss fetch).blind := by
  unfold recordMiss
  split <;> rfl

theorem blindly_fallBack (name : String) (e : RemoteError) :
    Blindly fun c fetch ↦ c.fallBack fetch name e := by
  intro c fetch
  have hconfig : c.blind.config = c.config := rfl
  dsimp only [fallBack]
  rw [hconfig]
  split <;> rfl

theorem blindly_goOutForLookup (name : String) :
    Blindly fun c fetch ↦ (c.recordMiss fetch).goOutForLookup fetch name := by
  intro c fetch
  dsimp only
  rw [recordMiss_blind]
  generalize c.recordMiss fetch = c
  have hconfig : c.blind.config = c.config := rfl
  dsimp only [goOutForLookup, wantsHandOver]
  rw [hconfig, isTracking_blind]
  split
  · rfl
  · exact blindly_fallBack name _ c fetch

theorem blindly_goOutForListing (stem : String) :
    Blindly fun c fetch ↦ (c.recordMiss fetch).goOutForListing fetch stem := by
  intro c fetch
  dsimp only
  rw [recordMiss_blind]
  generalize c.recordMiss fetch = c
  have hconfig : c.blind.config = c.config := rfl
  dsimp only [goOutForListing, wantsHandOver]
  rw [hconfig, isTracking_blind]
  split <;> rfl

/-- A cache with another number for its tracker's handle. -/
def withTracker (c : Cache) (t : Tracker) : Cache :=
  { c with store := { c.store with tracker := some t } }

/-- Caches that look the same are the same without a tracker, and otherwise differ in the number of
the handle only. -/
theorem eq_of_blind_eq {c c' : Cache} (h : c'.blind = c.blind) :
    c.store.tracker = none ∧ c' = c ∨
      ∃ t handle, c.store.tracker = some t ∧ c' = c.withTracker { t with handle := handle } := by
  obtain ⟨ns, owner, config, ⟨values, stems, tracker⟩, stats⟩ := c
  obtain ⟨ns', owner', config', ⟨values', stems', tracker'⟩, stats'⟩ := c'
  simp only [blind, mk.injEq, Store.mk.injEq] at h
  obtain ⟨rfl, rfl, rfl, ⟨rfl, rfl, htracker⟩, rfl⟩ := h
  cases tracker with
  | none =>
    cases Option.map_eq_none_iff.mp htracker
    exact .inl ⟨rfl, rfl⟩
  | some t =>
    obtain ⟨t', rfl, ht⟩ := Option.map_eq_some_iff.mp htracker
    obtain ⟨handle, slot, accepted, reporting, checks, acceptedAt⟩ := t
    obtain ⟨handle', slot', accepted', reporting', checks', acceptedAt'⟩ := t'
    simp only [Tracker.blind, Tracker.mk.injEq, true_and] at ht
    obtain ⟨rfl, rfl, rfl, rfl, rfl⟩ := ht
    exact .inr ⟨_, handle', rfl, rfl⟩

/-- What the handles of two caches show, if there are any, is the same. -/
def ShownSame (c : Cache) (view : BlockView) (c' : Cache) (view' : BlockView) : Prop :=
  ∀ t t', c.store.tracker = some t → c'.store.tracker = some t' →
    view t.handle t.slot = view' t'.handle t'.slot

theorem seen_sync {c c' : Cache} (h : c'.blind = c.blind) {view view' : BlockView}
    (hview : c.ShownSame view c' view') : (c.sync view).seen = (c'.sync view').seen := by
  obtain ⟨hnone, rfl⟩ | ⟨t, handle, ht, rfl⟩ := eq_of_blind_eq h
  · unfold sync
    rw [hnone]
  · have hshown : view' handle t.slot = view t.handle t.slot :=
      (hview t { t with handle := handle } ht rfl).symm
    simp only [sync, ht, withTracker, hshown]
    cases view t.handle t.slot with
    | error e =>
      simp only [Tracker.check, Tracker.report]
      cases t.reporting <;> rfl
    | ok g =>
      simp only [Tracker.check]
      by_cases hg : g = t.accepted
      · simp only [if_pos hg]
        rfl
      · simp only [if_neg hg]
        rfl

theorem seen_beginRead {c c' : Cache} (h : c'.blind = c.blind) {view view' : BlockView}
    (hview : c.ShownSame view c' view') (user : UserId) :
    (c.beginRead view user).seen = (c'.beginRead view' user).seen := by
  have howner : c'.blind.owner = c.blind.owner := congrArg owner h
  have hconfig : c'.blind.config = c.blind.config := congrArg config h
  change c'.owner = c.owner at howner
  change c'.config = c.config at hconfig
  obtain ⟨hcache, hresult⟩ := Prod.mk.inj (seen_sync h hview)
  dsimp only [beginRead]
  rw [howner, hconfig]
  split
  · exact Prod.ext hcache (congrArg (Fetch.mk _ _) hresult)
  · exact Prod.ext h.symm rfl

/-- First turns look the same. -/
theorem seen_start {c c' : Cache} (h : c'.blind = c.blind) {view view' : BlockView}
    (hview : c.ShownSame view c' view') {kind : Kind} (operation : Operation kind) :
    (c.start view operation).seen = (c'.start view' operation).seen := by
  cases operation with
  | lookup name user =>
    dsimp only [start]
    apply Blindly.seen_bind _ (seen_beginRead h hview user)
    intro c fetch
    have hknown : c.blind.knownReading? fetch name = c.knownReading? fetch name := rfl
    dsimp only
    rw [hknown]
    split
    · rfl
    · exact blindly_goOutForLookup name c fetch
  | list stem user =>
    dsimp only [start]
    apply Blindly.seen_bind _ (seen_beginRead h hview user)
    intro c fetch
    have hknown : c.blind.knownListing? fetch stem = c.knownListing? fetch stem := rfl
    dsimp only
    rw [hknown]
    split
    · rfl
    · exact blindly_goOutForListing stem c fetch
  | put | reset => exact Prod.ext h.symm rfl

theorem tracker?_blind (handOver : HandOver) :
    Tracker.ofHandOver? handOver.blind = (Tracker.ofHandOver? handOver).map Tracker.blind := by
  have hslot : handOver.blind.slot? = handOver.slot? := rfl
  unfold Tracker.ofHandOver?
  rw [hslot]
  cases handOver.slot? <;> rfl

theorem seen_adopt? (c : Cache) (handOver : Option HandOver) :
    (c.adopt? handOver).seen = (c.blind.adopt? (handOver.map HandOver.blind)).bare := by
  cases handOver with
  | none => rfl
  | some handOver =>
    dsimp only [adopt?, adopt, Option.map_some]
    rw [tracker?_blind]
    cases Tracker.ofHandOver? handOver <;> rfl

/-- Keeping something does not touch the tracker. -/
theorem seen_complete (c : Cache) (fetch : Fetch) (handOver : Option HandOver) (finding : Finding) :
    (c.complete fetch handOver fun s ↦ s.keep finding).seen =
      (c.blind.complete fetch (handOver.map HandOver.blind) fun s ↦ s.keep finding).bare := by
  unfold complete
  split
  · apply Blindly.bind _ (seen_adopt? c handOver)
    intro c adopted
    dsimp only
    rw [generation_blind]
    split
    · cases finding <;> rfl
    · rfl
  · rfl

/-- Later turns look the same. -/
theorem seen_resume (c : Cache) {verb : Verb} {kind : Kind} (pending : Pending verb kind)
    (outcome : verb.Outcome) :
    (c.resume pending outcome).seen = (c.blind.resume pending (Verb.blind outcome)).bare := by
  cases pending <;> rcases outcome with e | reply
  case get.error name fetch => exact blindly_fallBack name e (c.record .remoteError) fetch
  case get.ok name fetch =>
    rcases reply with _ | reply
    · exact blindly_fallBack name _ c fetch
    · exact Blindly.bind (fun _ _ ↦ rfl)
        (seen_complete c fetch reply.handOver (.value name reply.value))
  case query.ok name fetch =>
    exact Blindly.bind (fun _ _ ↦ rfl) (seen_complete c fetch none (.value name _))
  case list.ok stem fetch =>
    exact Blindly.bind (fun _ _ ↦ rfl)
      (seen_complete c fetch reply.handOver (.listing stem reply.values))
  all_goals rfl

end Cache

/-! ## Services that agree -/

namespace Service.AgreeOn

variable {part : Part} {s t : Service} {ns : Namespace}

theorem blind_handOverIf (h : s.AgreeOn part t) (track : Bool) (ns : Namespace) (g : Generation) :
    (s.handOverIf track ns g).1.map HandOver.blind =
      (t.handOverIf track ns g).1.map HandOver.blind := by
  have hsize : s.block.slots.size = t.block.slots.size := h.slotted.1.trans h.slotted.2.symm
  unfold handOverIf handOver
  rw [h.hasFault]
  split
  · split
    · rfl
    · simp only [openHandle, Faulty.handle, Option.map_some, HandOver.blind, hsize, h.trackerIndex]
  · rfl

/-- Services that agree on a namespace answer a call about it the same, but for the number of the
handle. -/
theorem blind_serve (h : s.AgreeOn part t) (hp : ∀ user, part ns user) {verb : Verb}
    (call : Call verb) :
    Verb.blind (s.serve ns call).1 = Verb.blind (t.serve ns call).1 := by
  have hcounter := h.counter ns .primary (hp .primary)
  have hgiven (track : Bool) : ((s.heard ns call).handOverIf track ns (s.generation ns)).1.map
        HandOver.blind =
      ((t.heard ns call).handOverIf track ns (t.generation ns)).1.map HandOver.blind := by
    rw [hcounter]
    exact (h.congr (contents_heard ..) (contents_heard ..)).blind_handOverIf ..
  cases call with
  | get request =>
    rw [serve_get, serve_get]
    dsimp only
    rw [h.requestUser, h.value (hp _), h.hasFault, h.hasFault, h.hasFault]
    split
    · rfl
    · split
      · rfl
      · split
        · rfl
        · exact congrArg (fun handOver ↦ (.ok (some (GetReply.mk _ handOver)) : Verb.Outcome .get))
            (hgiven request.track)
  | query name user =>
    rw [serve_query, serve_query]
    dsimp only
    rw [h.requestUser, h.hasFault, h.hasFault]
    unfold entry?
    rw [h.table ns _ (hp _)]
    split <;> rfl
  | list request =>
    rw [serve_list, serve_list]
    dsimp only
    rw [h.requestUser, h.hasFault, h.table ns _ (hp _)]
    split
    · rfl
    · exact congrArg (fun handOver ↦ (.ok (ListReply.mk _ handOver) : Verb.Outcome .list))
        (hgiven request.track)
  | put request =>
    rw [Service.serve_put, Service.serve_put]
    dsimp only
    rw [h.hasFault]
    split <;> rfl
  | reset request =>
    rw [Service.serve_reset, Service.serve_reset]
    dsimp only
    rw [h.hasFault]
    split <;> rfl

end Service.AgreeOn

/-! ## Whole operations -/

/-- How far the same operation has come with two caches that look the same, over services that agree
on their namespace. -/
structure Unseen (part : Service.Part) {kind : Kind} (c : Cache) (s : Service)
    (progress : Progress kind) (c' : Cache) (s' : Service) (progress' : Progress kind) : Prop where
  covered : ∀ user, part c.ns user
  cache : c'.blind = c.blind
  progress : progress' = progress
  agree : s.AgreeOn part s'

namespace Unseen

variable {part : Service.Part} {kind : Kind} {c c' : Cache} {s s' : Service}
  {progress' : Progress kind}

theorem ns_eq (h : c'.blind = c.blind) : c'.ns = c.ns := by
  have hns : c'.blind.ns = c.blind.ns := congrArg Cache.ns h
  exact hns

theorem call {verb : Verb} {call : Call verb} {pending : Pending verb kind}
    (h : Unseen part c s (.calling call pending) c' s' progress') :
    ∃ (call' : Call verb) (pending' : Pending verb kind), progress' = .calling call' pending' ∧
      let served := Provider.serve s c.ns call
      let turn := c.resume pending served.1
      let served' := Provider.serve s' c'.ns call'
      let turn' := c'.resume pending' served'.1
      Unseen part turn.cache (Provider.accessAll served.2 turn.accesses) turn.result
        turn'.cache (Provider.accessAll served'.2 turn'.accesses) turn'.result := by
  obtain ⟨hp, hcache, hprogress, hagree⟩ := h
  refine ⟨call, pending, hprogress, ?_⟩
  intro served turn served' turn'
  have houtcome : Verb.blind served'.1 = Verb.blind served.1 := by
    change Verb.blind (s'.serve c'.ns call).1 = _
    rw [ns_eq hcache]
    exact (hagree.blind_serve hp call).symm
  have hseen : turn'.seen = turn.seen := by
    rw [Cache.seen_resume, Cache.seen_resume, hcache, houtcome]
  obtain ⟨hcache', hresult⟩ := Prod.mk.inj hseen
  have hns : turn.cache.ns = c.ns := Cache.ns_of_identity (c.identity_resume pending served.1).1
  refine ⟨?_, hcache', hresult, ?_⟩
  · rw [hns]
    exact hp
  · have hserved : served.2.AgreeOn part served'.2 := by
      change (s.serve c.ns call).2.AgreeOn part (s'.serve c'.ns call).2
      rw [ns_eq hcache]
      exact hagree.serve c.ns call
    exact hserved.congr (Service.contents_accessAll ..) (Service.contents_accessAll ..)

end Unseen

/-- An operation by itself leaves caches that look the same and comes to the same. -/
theorem Cache.blind_perform {part : Service.Part} {c c' : Cache} {s s' : Service}
    (hcache : c'.blind = c.blind) (hr : c.store.Reporting) (hp : ∀ user, part c.ns user)
    (hagree : s.AgreeOn part s')
    (hview : c.ShownSame (Provider.view s) c' (Provider.view s')) {kind : Kind}
    (operation : Operation kind) :
    (c'.perform s' operation).state.blind = (c.perform s operation).state.blind ∧
      (c'.perform s' operation).answer = (c.perform s operation).answer := by
  obtain ⟨hcache', hresult⟩ := Prod.mk.inj (seen_start hcache hview operation)
  obtain ⟨fetch, hstart⟩ := starts (Eq.refl (c.start (Provider.view s) operation)) hr
  have hns : (c.start (Provider.view s) operation).cache.ns = c.ns :=
    ns_of_identity hstart.identity
  have hbegin : Unseen part (c.start (Provider.view s) operation).cache
      (Provider.accessAll s (c.start (Provider.view s) operation).accesses)
      (c.start (Provider.view s) operation).result (c'.start (Provider.view s') operation).cache
      (Provider.accessAll s' (c'.start (Provider.view s') operation).accesses)
      (c'.start (Provider.view s') operation).result :=
    ⟨hns ▸ hp, hcache'.symm, hresult.symm,
      hagree.congr (Service.contents_accessAll ..) (Service.contents_accessAll ..)⟩
  have hend := carryOn_related (fun hdone ↦ ⟨_, hdone.progress⟩) (fun hcall ↦ hcall.call) hbegin
  exact ⟨hend.cache, Progress.done.inj hend.progress⟩

end SettingsCache
