import SettingsCache.Proofs.Healing.AtHand

/-!
# The first lookup

Whatever a cache of all switches on has been through, one lookup by its owner gets the value at hand
if the service is ready: it answers fast reads, hands over the namespace's slot and lets the counter
be read.
-/

namespace SettingsCache

namespace Service

/-- Fast reads are answered, trackers are handed over for the namespace's own slot, and the block
can be read. -/
structure Ready (ns : Namespace) (s : Service) : Prop where
  slotted : s.Slotted
  supported : s.hasFault .getUnsupported = false
  working : s.hasFault .failGet = false
  replying : s.hasFault .emptyGetReply = false
  giving : s.hasFault .withholdTracker = false
  index : ∀ i, s.trackerIndex = some i → i.toInt = ns.slot
  reads : s.block.failReads = false

namespace Ready

variable {s : Service} {ns : Namespace}

theorem congr (h : s.Ready ns) {t : Service} (hcontents : t.contents = s.contents) :
    t.Ready ns := by
  have hagree : t.AgreeOn (fun _ _ ↦ True) s := .of_contents h.slotted hcontents
  refine ⟨hagree.slotted.1, ?_, ?_, ?_, ?_, ?_, hagree.failReads.trans h.reads⟩
  · exact (hagree.hasFault _).trans h.supported
  · exact (hagree.hasFault _).trans h.working
  · exact (hagree.hasFault _).trans h.replying
  · exact (hagree.hasFault _).trans h.giving
  · rw [hagree.trackerIndex]
    exact h.index

theorem fastRead (h : s.Ready ns) (user : UserId) (name : String) :
    s.fastRead ns user name = .ok (s.value ns user name) := by
  unfold Service.fastRead
  simp only [h.supported, h.working, h.replying, Bool.false_eq_true, if_false]

/-- A fast read is answered. -/
theorem get (h : s.Ready ns) (request : GetRequest) :
    (s.serve ns (.get request)).1 =
      .ok (some ⟨s.value ns (s.requestUser request.user) request.name,
        ((s.heard ns (.get request)).handOverIf request.track ns (s.generation ns)).1⟩) := by
  rw [serve_get]
  simp only [h.supported, h.working, h.replying, Bool.false_eq_true, if_false]

/-- What is handed over starts a tracker of the namespace's counter. -/
theorem handOver (h : s.Ready ns) (g : Generation) :
    ∃ handOver t, (s.handOverIf true ns g).1 = some handOver ∧
      Tracker.ofHandOver? handOver = some t ∧ t.handle = handOver.handle ∧ t.slot = ns.slot ∧
      t.accepted = g := by
  have hindex : (s.trackerIndex.getD (Int32.ofNat ns.slot)).toInt = ns.slot := by
    cases hset : s.trackerIndex with
    | none => cases ns <;> rfl
    | some i => exact h.index i hset
  have hslot : (⟨s.block.closed.size, s.block.slots.size,
      s.trackerIndex.getD (Int32.ofNat ns.slot), g⟩ : HandOver).slot? = some ns.slot := by
    have hlt : (ns.slot : Int) < s.block.slots.size := by
      rw [h.slotted]
      exact Int.ofNat_lt.mpr ns.slot_lt
    unfold HandOver.slot?
    simp only [hindex, hlt, Int.natCast_nonneg, and_self, if_true, Int.toNat_natCast]
  refine ⟨_, _, ?_, congrArg (Option.map _) hslot, rfl, rfl, rfl⟩
  unfold handOverIf Service.handOver
  simp only [h.giving, if_true, Bool.false_eq_true, if_false]
  rfl

end Ready

/-- Only what is open can be read. -/
theorem open_of_view {s : Service} {handle : Handle} {slot : Nat} {g : Generation}
    (h : s.block.view handle slot = .ok g) : s.Open handle := by
  unfold Faulty.view at h
  split at h
  · cases h
  · next hclosed => exact Bool.eq_false_iff.mpr hclosed

end Service

/-- What a check comes to: the tracker is lost, or it has accepted where the counter stands. -/
inductive Store.Synced (store : Store) (s : Service) (ns : Namespace)
    (observed : Option Generation) : Prop
  | lost (h : store.tracker = none) (ho : observed = none)
  | current (h : store.Follows s ns (s.generation ns)) (ho : observed = some (s.generation ns))

theorem Checked.synced {s : Service} {a b : Store} {accesses : List Access}
    {observed : Option Generation} (h : Checked true (Provider.view s) a b accesses observed)
    {ns : Namespace} (hslot : ∀ t, a.tracker = some t → t.slot = ns.slot) :
    b.Synced (Provider.accessAll s accesses) ns observed := by
  have hcurrent {t : Tracker} {g : Generation} (ht : a.tracker = some t)
      (hview : Provider.view s t.handle t.slot = .ok g) :
      t.slot = ns.slot ∧ s.generation ns = g ∧
        (Provider.accessAll s [.read t.handle t.slot]).Open t.handle := by
    have ho := Service.open_of_view hview
    have hown := hslot t ht
    rw [hown] at hview
    exact ⟨hown, Service.generation_of_view hview, ho.accessAll List.not_mem_nil⟩
  cases h with
  | skipped hnone => exact .lost (hnone rfl) rfl
  | lost => exact .lost rfl rfl
  | moved _ ht hview =>
    obtain ⟨hown, hg, ho⟩ := hcurrent ht hview
    exact .current ⟨_, rfl, hown, hg.symm, ho⟩ (congrArg some hg.symm)
  | steady _ ht hview =>
    obtain ⟨hown, hg, ho⟩ := hcurrent ht hview
    exact .current ⟨_, rfl, hown, hg.symm, ho⟩ (congrArg some hg.symm)

namespace Cache

variable {s : Service} {name : String}

/-- A fast read that is answered ends the lookup. -/
theorem carryOn_get (c : Cache) {fetch : Fetch} {track : Bool} {value : Option String}
    {handOver : Option HandOver}
    (h : (s.serve c.ns (.get ⟨name, fetch.user, track⟩)).1 = .ok (some ⟨value, handOver⟩)) :
    let turn := c.complete fetch handOver fun store ↦ store.keep (.value name value)
    c.carryOn s (.calling (.get ⟨name, fetch.user, track⟩) (.get name fetch)) =
      ⟨turn.cache, Provider.accessAll (s.serve c.ns (.get ⟨name, fetch.user, track⟩)).2
        turn.accesses, .ok ⟨value, .fastPath, turn.result⟩⟩ := by
  have hserved : Provider.serve s c.ns (.get ⟨name, fetch.user, track⟩) =
      (.ok (some ⟨value, handOver⟩), (s.serve c.ns (.get ⟨name, fetch.user, track⟩)).2) :=
    Prod.ext h rfl
  rw [carryOn_calling, hserved]
  dsimp only [resume, completeLookup, Turn.bind]
  rw [carryOn_done, List.append_nil]
  rfl

/-- A tracker that is handed over with the value is at hand with it. -/
theorem atHand_adopted {c : Cache} {fetch : Fetch} (hcaching : fetch.caching = true)
    (hnone : c.store.tracker = none) {value : Option String} {handOver : HandOver} {t : Tracker}
    (ht : Tracker.ofHandOver? handOver = some t) (hslot : t.slot = c.ns.slot)
    (ho : s.Open t.handle) :
    let turn := c.complete fetch (some handOver) fun store ↦ store.keep (.value name value)
    turn.cache.AtHand (Provider.accessAll s turn.accesses) name value t.accepted := by
  intro turn
  obtain ⟨hstore, haccesses⟩ :=
    (c.complete_completed fetch (some handOver) (.value name value)).eq_of_adopted hcaching ht
  have hns : turn.cache.ns = c.ns := ns_of_identity (c.identity_complete fetch (some handOver) _)
  have hrelease : c.store.release = [] := by
    unfold Store.release
    rw [hnone]
    rfl
  rw [show turn.accesses = [] from haccesses.trans hrelease]
  refine ⟨⟨t, ?_, hslot.trans (congrArg Namespace.slot hns.symm), rfl, ho⟩, ?_⟩
  · exact (congrArg Store.tracker hstore).trans (Store.tracker_keep ..)
  · rw [hstore, Store.getElem?_values_keep]
    exact congrArg (Option.or · _) (if_pos rfl)

/-- A tracker that has accepted where the counter stands stays at hand with the value. -/
theorem atHand_kept {c : Cache} {fetch : Fetch} (hcaching : fetch.caching = true)
    {value : Option String} {t : Tracker} (ht : c.store.tracker = some t)
    (hslot : t.slot = c.ns.slot) (ho : s.Open t.handle)
    (hobserved : fetch.observed = some t.accepted) :
    let turn := c.complete fetch none fun store ↦ store.keep (.value name value)
    turn.cache.AtHand (Provider.accessAll s turn.accesses) name value t.accepted := by
  intro turn
  have hgeneration : c.store.generation = some t.accepted := by
    unfold Store.generation
    rw [ht]
    rfl
  obtain ⟨hstore, haccesses⟩ :=
    (c.complete_completed fetch none (.value name value)).eq_of_kept hcaching rfl hobserved
      hgeneration
  have hns : turn.cache.ns = c.ns := ns_of_identity (c.identity_complete fetch none _)
  rw [show turn.accesses = [] from haccesses]
  refine ⟨⟨t, ?_, hslot.trans (congrArg Namespace.slot hns.symm), rfl, ho⟩, ?_⟩
  · exact (congrArg Store.tracker hstore).trans ((Store.tracker_keep ..).trans ht)
  · rw [hstore, Store.getElem?_values_keep]
    exact congrArg (Option.or · _) (if_pos rfl)

/-- A fast read that may be kept gets the value at hand, if the cache has no tracker and asks for
one, or has one that has accepted where the counter stands. -/
theorem atHand_get {c : Cache} (ready : s.Ready c.ns) (hown : c.owner = s.ownUser) {fetch : Fetch}
    (hcaching : fetch.caching = true) (huser : fetch.user = none)
    (hsynced : c.store.Synced s c.ns fetch.observed) :
    let performed :=
      c.carryOn s (.calling (.get ⟨name, fetch.user, !c.isTracking⟩) (.get name fetch))
    performed.state.AtHand performed.provider name (s.value c.ns c.owner name)
      (s.generation c.ns) := by
  have hasked : s.requestUser fetch.user = c.owner := by
    rw [huser]
    exact hown.symm
  cases hsynced with
  | lost hnone =>
    have htrack : (!c.isTracking) = true := by
      unfold isTracking
      rw [hnone]
      rfl
    obtain ⟨handOver, t, hgiven, ht, hhandle, hslot, haccepted⟩ :=
      (ready.congr (Service.contents_heard s c.ns (.get ⟨name, fetch.user, true⟩))).handOver
        (s.generation c.ns)
    have hserved := ready.get ⟨name, fetch.user, true⟩
    rw [hasked, hgiven] at hserved
    have ho := (Service.open_handOver (congrArg (Verb.handOver? .get) hserved)).2
    rw [← hhandle] at ho
    rw [htrack, carryOn_get c hserved, ← haccepted]
    exact atHand_adopted hcaching hnone ht hslot ho
  | current hfollows hobserved =>
    obtain ⟨t, ht, hslot, haccepted, ho⟩ := hfollows
    have htrack : (!c.isTracking) = false := by
      unfold isTracking
      rw [ht]
      rfl
    have hserved := ready.get ⟨name, fetch.user, false⟩
    rw [hasked] at hserved
    rw [htrack, carryOn_get c hserved, ← haccepted]
    rw [← haccepted] at hobserved
    exact atHand_kept hcaching ht hslot (ho.serve c.ns _) hobserved

/-- A lookup that goes out gets the value at hand, whether its check has left a tracker or not. -/
theorem atHand_goOutForLookup {c : Cache} (name : String) (ready : s.Ready c.ns)
    (hown : c.owner = s.ownUser) (hconfig : c.config = {}) {fetch : Fetch}
    (hcaching : fetch.caching = true) (huser : fetch.user = none)
    (hsynced : c.store.Synced s c.ns fetch.observed) :
    let turn := (c.recordMiss fetch).goOutForLookup fetch name
    let performed := turn.cache.carryOn (Provider.accessAll s turn.accesses) turn.result
    performed.state.AtHand performed.provider name (s.value c.ns c.owner name)
      (s.generation c.ns) := by
  have hmiss : c.recordMiss fetch = c.record .miss := by
    unfold recordMiss
    rw [huser]
    rfl
  have hfast : (c.record .miss).config.fastPath = true := congrArg Config.fastPath hconfig
  have hwants : (c.record .miss).wantsHandOver fetch = !c.isTracking := by
    have htracking : (c.record .miss).config.tracking = true := congrArg Config.tracking hconfig
    unfold wantsHandOver
    rw [hcaching, htracking]
    rfl
  have hgoes : (c.record .miss).goOutForLookup fetch name =
      ⟨(c.record .miss).record .fastPathCall, [],
        .calling (.get ⟨name, fetch.user, !c.isTracking⟩) (.get name fetch)⟩ := by
    unfold goOutForLookup
    rw [if_pos hfast, hwants]
  rw [hmiss, hgoes]
  exact atHand_get (c := (c.record .miss).record .fastPathCall) ready hown hcaching huser hsynced

/-- A value that is known after a check is at hand. -/
theorem atHand_of_known {c : Cache} {fetch : Fetch} {reading : Reading}
    (hsynced : c.store.Synced s c.ns fetch.observed)
    (h : c.knownReading? fetch name = some reading) :
    c.AtHand s name reading.value (s.generation c.ns) := by
  obtain ⟨g, ho, hrest⟩ := Option.bind_eq_some_iff.mp h
  obtain ⟨value, hvalue, hofCache⟩ := Option.bind_eq_some_iff.mp hrest
  obtain rfl := Option.some.inj hofCache
  cases hsynced with
  | lost _ hnone => cases hnone.symm.trans ho
  | current hfollows => exact ⟨hfollows, hvalue⟩

/-- One lookup by the owner gets the value at hand. -/
theorem atHand_first {c : Cache} (ready : s.Ready c.ns) (hown : c.owner = s.ownUser)
    (hconfig : c.config = {}) (hr : c.store.Reporting)
    (hslot : ∀ t, c.store.tracker = some t → t.slot = c.ns.slot)
    (hknown : ∀ answer, c.known? (Provider.view s) (.lookup name c.owner) = some answer →
      Kind.lookup.said answer = .ok (s.value c.ns c.owner name)) :
    let performed := c.perform s (.lookup name c.owner)
    performed.state.AtHand performed.provider name (s.value c.ns c.owner name)
      (s.generation c.ns) := by
  have hcaches : c.caches c.owner = true := caches_owner (congrArg Config.caching hconfig)
  have hchecked := c.beginRead_checked (Provider.view s) c.owner hr
  rw [hcaches] at hchecked
  have hsynced := hchecked.synced hslot
  have hidentity := c.identity_beginRead (Provider.view s) c.owner
  have hfetch := c.fetch_beginRead (Provider.view s) c.owner
  have hcontents := Service.contents_accessAll s (c.beginRead (Provider.view s) c.owner).accesses
  have htrue (reading : Reading) (h : (c.beginRead (Provider.view s) c.owner).cache.knownReading?
      (c.beginRead (Provider.view s) c.owner).result name = some reading) :
      reading.value = s.value c.ns c.owner name := by
    refine Except.ok.inj (hknown (.ok reading) ?_)
    rw [known?_lookup, h]
    rfl
  rw [perform_lookup]
  dsimp only
  generalize c.beginRead (Provider.view s) c.owner = begun at *
  generalize Provider.accessAll s begun.accesses = reached at hsynced hcontents ⊢
  have hns : begun.cache.ns = c.ns := ns_of_identity hidentity
  have howner : begun.cache.owner = c.owner := owner_of_identity hidentity
  have hgeneration := Service.generation_of_contents hcontents c.ns
  rw [← hns] at hsynced
  cases hreading : begun.cache.knownReading? begun.result name with
  | some reading =>
    have hatHand := atHand_of_known hsynced hreading
    rw [hns, hgeneration, htrue reading hreading] at hatHand
    exact hatHand.congr rfl rfl fun _ _ ↦ id
  | none =>
    have hvalue : reached.value c.ns c.owner name = s.value c.ns c.owner name :=
      Service.value_congr (congrArg (·.get c.ns) (Service.tables_of_contents hcontents)) _ name
    have huser : reached.ownUser = s.ownUser := Service.ownUser_of_contents hcontents
    have hout := atHand_goOutForLookup name (hns.symm ▸ ready.congr hcontents)
      (howner.trans (hown.trans huser.symm)) ((config_of_identity hidentity).trans hconfig)
      (hfetch.caching_eq.trans hcaches) (hfetch.user_eq.trans (wireUser_of_caches hcaches)) hsynced
    rw [hns, howner, hvalue, hgeneration] at hout
    exact hout

/-- The lookup is answered what the service holds. -/
theorem answer_first {c : Cache} (ready : s.Ready c.ns) (hown : c.owner = s.ownUser)
    (hconfig : c.config = {})
    (hknown : ∀ answer, c.known? (Provider.view s) (.lookup name c.owner) = some answer →
      Kind.lookup.said answer = .ok (s.value c.ns c.owner name)) :
    ∃ reading, (c.perform s (.lookup name c.owner)).answer = .ok reading ∧
      reading.value = s.value c.ns c.owner name := by
  have hsaid : Kind.lookup.said (c.perform s (.lookup name c.owner)).answer =
      .ok (s.value c.ns c.owner name) := by
    cases hquiet : c.known? (Provider.view s) (.lookup name c.owner) with
    | some answer =>
      rw [← hknown answer hquiet]
      exact congrArg Kind.lookup.said (answer_of_known hquiet)
    | none =>
      refine (said_perform ready.slotted hown _ hquiet).trans ?_
      change s.lookedUp c.config c.ns c.owner name = _
      unfold Service.lookedUp
      rw [hconfig, ready.fastRead]
      rfl
  cases hanswer : (c.perform s (.lookup name c.owner)).answer with
  | error e =>
    rw [hanswer] at hsaid
    cases hsaid
  | ok reading =>
    rw [hanswer] at hsaid
    exact ⟨reading, rfl, Except.ok.inj hsaid⟩

end Cache

end SettingsCache
