import SettingsCache.Proofs.Handles.Open

/-!
# Sessions of a client

A process has one cache for each namespace, and all of them call the same service and read the same
block. `Tidy` says that they do not get into each other's way, and holds whatever happens: no handle
has two owners. `Orderly` says that each cache reads its own counter through an open handle, and
holds as long as nobody meddles with the handles from outside.
-/

namespace SettingsCache

/-- The namespace that a step is about, if it is about one. -/
def Scenario.ServiceStep.ns? : Scenario.ServiceStep → Option Namespace
  | .insert ns _ _ _ | .value ns _ _ | .defaultValue ns _ _ | .tag ns _ _ | .bump ns
  | .generation ns | .setGeneration ns _ | .call ns _ => some ns
  | .setFault _ _ | .hasFault _ | .setTrackerIndex _ | .failReads _ | .failClose _
  | .closeHandle _ | .countReads | .listRequests | .auditHandles => none

/-- A step that leaves handles to the caches: none is closed or handed out from outside, and every
namespace is handed its own slot. -/
def Scenario.ServiceStep.Discreet : Scenario.ServiceStep → Prop
  | .closeHandle _ => False
  | .setTrackerIndex index => index = none
  | .call _ made => made.track = false
  | _ => True

namespace Service

theorem trackerIndex_run (s : Service) {step : Scenario.ServiceStep}
    (hindex : s.trackerIndex = none) (h : step.Discreet) : (step.run s).2.trackerIndex = none := by
  cases step with
  | setTrackerIndex index => exact h
  | closeHandle place => exact h.elim
  | call ns call => exact (trackerIndex_of_setup (setup_serve s ns call)).trans hindex
  | _ => exact hindex

/-- No handle is ever forgotten. -/
theorem size_run_le (s : Service) (step : Scenario.ServiceStep) :
    s.block.closed.size ≤ (step.run s).2.block.closed.size := by
  cases step with
  | closeHandle place =>
    dsimp only [Scenario.ServiceStep.run]
    split
    · exact Nat.le_of_eq Array.size_setIfInBounds.symm
    · exact Nat.le_refl _
  | call ns call => exact size_serve_le s ns call
  | _ => exact Nat.le_refl _

/-- A discreet step closes nothing. -/
theorem Open.run {s : Service} {h : Handle} (ho : s.Open h) {step : Scenario.ServiceStep}
    (hstep : step.Discreet) : (step.run s).2.Open h := by
  cases step with
  | closeHandle place => exact hstep.elim
  | call ns call => exact ho.serve ns call
  | _ => exact ho

end Service

namespace Cache

/-- Clearing closes the handle of the tracker only. -/
theorem minds_clear (c : Cache) (s : Service) :
    c.store.Minds s c.clear.cache.store (Provider.accessAll s c.clear.accesses) := by
  refine ⟨?_, nofun, nofun, Nat.le_of_eq (Service.size_accessAll ..).symm⟩
  intro h ho hne
  apply ho.accessAll
  exact c.store.closed_release ▸ hne

end Cache

namespace Client

theorem cache_setCache_self (client : Client) (ns : Namespace) (c : Cache) :
    (client.setCache ns c).cache ns = c :=
  PerNamespace.get_set_self ..

theorem cache_setCache_of_ne (client : Client) {ns other : Namespace} (c : Cache)
    (h : other ≠ ns) : (client.setCache ns c).cache other = client.cache other :=
  PerNamespace.get_set_of_ne _ _ h

theorem cache_clear (client : Client) (ns : Namespace) :
    client.clear.1.cache ns = (client.cache ns).clear.cache :=
  PerNamespace.get_ofFun ..

theorem cache_unchecked (user : UserId) (config : Config) (ns : Namespace) :
    (unchecked user config).cache ns = { ns := ns, owner := user, config := config } :=
  PerNamespace.get_ofFun ..

/-- A client and the service that its caches call. -/
structure Session where
  client : Client
  service : Service

/-- What happens to a session of a client. -/
inductive Event where
  /-- The client carries an action out. -/
  | act (action : Action Scenario.Answer)
  /-- One cache gives up its tracker and its values. -/
  | clear (ns : Namespace)
  /-- Every cache does. -/
  | clearAll
  /-- Something is done to the service from outside. -/
  | change (step : Scenario.ServiceStep)

namespace Event

/-- The namespace that an event is about, if it is about one. -/
def ns? : Event → Option Namespace
  | .act action => some action.ns
  | .clear ns => some ns
  | .clearAll => none
  | .change step => step.ns?

/-- Nothing is done to handles, or to what is handed over, from outside. -/
def Discreet : Event → Prop
  | .act _ | .clear _ | .clearAll => True
  | .change step => step.Discreet

end Event

namespace Session

/-- What an event is answered, and the session after it. -/
def step (s : Session) : Event → Scenario.Answer × Session
  | .act action =>
    let performed := s.client.perform s.service action
    (performed.answer, ⟨performed.state, performed.provider⟩)
  | .clear ns =>
    let cleared := (s.client.cache ns).clear
    (.nothing, ⟨s.client.setCache ns cleared.cache, Provider.accessAll s.service cleared.accesses⟩)
  | .clearAll => (.nothing, ⟨s.client.clear.1, Provider.accessAll s.service s.client.clear.2⟩)
  | .change step =>
    let (answer, service) := step.run s.service
    (answer, ⟨s.client, service⟩)

/-- A session after an event. -/
def next (s : Session) (event : Event) : Session := (s.step event).2

/-- A session after one event after another. -/
def play (s : Session) (events : List Event) : Session := events.foldl next s

/-- What the events about a namespace are answered, one after another. -/
def answers (ns : Namespace) (s : Session) : List Event → List Scenario.Answer
  | [] => []
  | event :: rest =>
    let later := (s.next event).answers ns rest
    if event.ns? = some ns then (s.step event).1 :: later else later

/-- A session in which each cache keeps to its namespace and to its own handle. -/
structure Tidy (s : Session) : Prop where
  ns : ∀ ns, (s.client.cache ns).ns = ns
  reporting : ∀ ns, (s.client.cache ns).store.Reporting
  /-- Caches have handles of the service only. -/
  issued : ∀ ns, ∀ h ∈ (s.client.cache ns).store.owned, h < s.service.block.closed.size
  /-- No handle has two owners. -/
  apart : ∀ ns other, ∀ h ∈ (s.client.cache ns).store.owned,
    h ∈ (s.client.cache other).store.owned → other = ns

namespace Tidy

variable {s : Session}

/-- A session is tidy if no cache has a handle. -/
theorem of_untracked (hns : ∀ ns, (s.client.cache ns).ns = ns)
    (hnone : ∀ ns, (s.client.cache ns).store.tracker = none) : s.Tidy := by
  refine ⟨hns, ?_, ?_, ?_⟩
  · intro ns t ht
    cases (hnone ns).symm.trans ht
  all_goals
    intro ns
    rw [Store.owned_of_untracked (hnone ns)]
    nofun

/-- A session stays tidy if one cache moves on and minds the handles of the others. -/
theorem setCache (h : s.Tidy) {ns : Namespace} {c : Cache} {service : Service} (hns : c.ns = ns)
    (hr : c.store.Reporting) (hminds : (s.client.cache ns).store.Minds s.service c.store service) :
    Tidy ⟨s.client.setCache ns c, service⟩ := by
  have hself : (s.client.setCache ns c).cache ns = c := cache_setCache_self ..
  have hother {other : Namespace} (hne : other ≠ ns) :
      (s.client.setCache ns c).cache other = s.client.cache other := cache_setCache_of_ne _ c hne
  have htaken : ∀ handle ∈ c.store.owned, ∀ other,
      handle ∈ (s.client.cache other).store.owned → other = ns := by
    intro handle hmem other hmem'
    rcases hminds.taken handle hmem with hold | hnew
    · exact h.apart ns other handle hold hmem'
    · exact absurd (h.issued other handle hmem') (Nat.not_lt.mpr hnew)
  constructor
  case ns =>
    intro other
    by_cases heq : other = ns
    · subst heq
      rw [hself]
      exact hns
    · rw [hother heq]
      exact h.ns other
  case reporting =>
    intro other
    by_cases heq : other = ns
    · subst heq
      rw [hself]
      exact hr
    · rw [hother heq]
      exact h.reporting other
  case issued =>
    intro other handle
    by_cases heq : other = ns
    · subst heq
      rw [hself]
      intro hmem
      by_cases hold : handle ∈ (s.client.cache other).store.owned
      · exact Nat.lt_of_lt_of_le (h.issued other handle hold) hminds.size
      · exact (hminds.opened handle hmem fun hmem' ↦ absurd hmem' hold).lt
    · rw [hother heq]
      exact fun hmem ↦ Nat.lt_of_lt_of_le (h.issued other handle hmem) hminds.size
  case apart =>
    intro one other handle
    by_cases hone : one = ns <;> by_cases heq : other = ns
    · exact fun _ _ ↦ heq.trans hone.symm
    · subst hone
      rw [hself, hother heq]
      exact fun hmem hmem' ↦ htaken handle hmem other hmem'
    · subst heq
      rw [hself, hother hone]
      exact fun hmem hmem' ↦ (htaken handle hmem' one hmem).symm
    · rw [hother hone, hother heq]
      exact h.apart one other handle

theorem act (h : s.Tidy) (action : Action Scenario.Answer) : (s.next (.act action)).Tidy := by
  obtain ⟨hidentity, hr⟩ := (s.client.cache action.ns).identity_perform s.service action.operation
    (h.reporting action.ns)
  exact h.setCache ((Cache.ns_of_identity hidentity).trans (h.ns action.ns)) hr
    ((s.client.cache action.ns).minds_perform (h.reporting action.ns) s.service action.operation)

/-- Sessions stay tidy, whatever happens. -/
theorem next (h : s.Tidy) (event : Event) : (s.next event).Tidy := by
  cases event with
  | act action => exact h.act action
  | clear ns => exact h.setCache (h.ns ns) nofun ((s.client.cache ns).minds_clear s.service)
  | clearAll =>
    refine of_untracked (fun ns ↦ ?_) (fun ns ↦ ?_)
    · exact (congrArg Cache.ns (cache_clear ..)).trans (h.ns ns)
    · exact congrArg (·.store.tracker) (cache_clear s.client ns)
  | change step =>
    refine ⟨h.ns, h.reporting, fun ns handle hmem ↦ ?_, h.apart⟩
    exact Nat.lt_of_lt_of_le (h.issued ns handle hmem) (s.service.size_run_le step)

end Tidy

/-- A tidy session whose caches all read their own counters, through open handles. -/
structure Orderly (s : Session) : Prop where
  tidy : s.Tidy
  slotted : s.service.Slotted
  index : s.service.trackerIndex = none
  /-- A tracker reads the counter of its cache's namespace. -/
  slot : ∀ ns t, (s.client.cache ns).store.tracker = some t → t.slot = ns.slot
  opened : ∀ ns, ∀ h ∈ (s.client.cache ns).store.owned, s.service.Open h

namespace Orderly

variable {s : Session}

/-- What a tracker reads is where the counter stands, unless reads fail. -/
theorem view (h : s.Orderly) {ns : Namespace} {t : Tracker}
    (ht : (s.client.cache ns).store.tracker = some t) :
    Provider.view s.service t.handle t.slot =
      if s.service.block.failReads then .error (.io "injected read failure")
      else .ok (s.service.generation ns) := by
  rw [h.slot ns t ht]
  exact (h.opened ns _ (Store.handle_mem_owned ht)).view h.slotted ns

/-- A session is orderly if no cache has a tracker and nothing is said of the index to hand over. -/
theorem of_untracked (hns : ∀ ns, (s.client.cache ns).ns = ns)
    (hnone : ∀ ns, (s.client.cache ns).store.tracker = none) (hslotted : s.service.Slotted)
    (hindex : s.service.trackerIndex = none) : s.Orderly := by
  refine ⟨.of_untracked hns hnone, hslotted, hindex, ?_, ?_⟩
  · intro ns t ht
    cases (hnone ns).symm.trans ht
  · intro ns handle hmem
    rw [Store.owned_of_untracked (hnone ns)] at hmem
    cases hmem

/-- A session stays orderly if one cache moves on and minds the handles of the others. -/
theorem setCache (h : s.Orderly) {ns : Namespace} {c : Cache} {service : Service}
    (htidy : Tidy ⟨s.client.setCache ns c, service⟩) (hslotted : service.Slotted)
    (hindex : service.trackerIndex = none)
    (hslot : ∀ t, c.store.tracker = some t → t.slot = ns.slot)
    (hminds : (s.client.cache ns).store.Minds s.service c.store service) :
    Orderly ⟨s.client.setCache ns c, service⟩ := by
  refine ⟨htidy, hslotted, hindex, fun other ↦ ?_, fun other handle ↦ ?_⟩
  all_goals
    dsimp only
    by_cases heq : other = ns
  · subst heq
    rw [cache_setCache_self]
    exact hslot
  · rw [cache_setCache_of_ne _ c heq]
    exact h.slot other
  · subst heq
    rw [cache_setCache_self]
    exact fun hmem ↦ hminds.opened handle hmem (h.opened other handle)
  · rw [cache_setCache_of_ne _ c heq]
    intro hmem
    refine hminds.spared handle (h.opened other handle hmem) ?_
    exact fun hmem' ↦ heq (h.tidy.apart ns other handle hmem' hmem)

theorem act (h : s.Orderly) (action : Action Scenario.Answer) :
    (s.next (.act action)).Orderly := by
  let c := s.client.cache action.ns
  have hns : c.ns = action.ns := h.tidy.ns action.ns
  have hr : c.store.Reporting := h.tidy.reporting action.ns
  have hsetup := Service.setup_perform s.service c action.operation
  have hindex : Service.OwnIndex c.ns s.service.trackerIndex := by
    rw [h.index]
    nofun
  have hslot := c.slot_perform hr h.slotted hindex (hns ▸ h.slot action.ns) action.operation
  exact h.setCache (h.tidy.act action) (Service.slotted_of_setup hsetup h.slotted)
    ((Service.trackerIndex_of_setup hsetup).trans h.index)
    (fun t ht ↦ (hslot t ht).trans (congrArg Namespace.slot hns))
    (c.minds_perform hr s.service action.operation)

/-- Sessions stay orderly as long as nothing is done to handles from outside. -/
theorem next (h : s.Orderly) {event : Event} (discreet : event.Discreet) :
    (s.next event).Orderly := by
  have htidy := h.tidy.next event
  cases event with
  | act action => exact h.act action
  | clear ns =>
    have hcontents := Service.contents_accessAll s.service (s.client.cache ns).clear.accesses
    exact h.setCache htidy
      (Service.slotted_of_contents hcontents h.slotted)
      ((Service.trackerIndex_of_contents hcontents).trans h.index) nofun
      ((s.client.cache ns).minds_clear s.service)
  | clearAll =>
    have hcontents := Service.contents_accessAll s.service s.client.clear.2
    exact of_untracked htidy.ns (fun ns ↦ congrArg (·.store.tracker) (cache_clear s.client ns))
      (Service.slotted_of_contents hcontents h.slotted)
      ((Service.trackerIndex_of_contents hcontents).trans h.index)
  | change step =>
    refine ⟨htidy, Service.slotted_run h.slotted step, s.service.trackerIndex_run h.index discreet,
      h.slot, ?_⟩
    exact fun ns handle hmem ↦ (h.opened ns handle hmem).run discreet

end Orderly

end Session

end Client

end SettingsCache
