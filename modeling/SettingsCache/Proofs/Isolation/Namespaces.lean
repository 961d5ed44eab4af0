import Mathlib.Control.Monad.Basic
import SettingsCache.Proofs.Handles.Unseen
import SettingsCache.Proofs.Session.Clients

/-!
# Namespaces do not show to each other

A session of a client is compared with the one in which nothing happens that is about other
namespaces. One namespace does not tell the two apart: its cache keeps and counts the same, the
service holds the same for it, and what is done with it is answered the same. All that differs is
the numbers of the handles, and these do not show.
-/

namespace SettingsCache

namespace Service

variable {s t : Service} {ns : Namespace}

/-- What a service holds of one namespace only. -/
abbrev only (ns : Namespace) : Part := fun other _ ↦ other = ns

/-- A step about another namespace changes nothing in one. -/
theorem AgreeOn.run_outside (hs : s.Slotted) {step : Scenario.ServiceStep} {other : Namespace}
    (hstep : step.ns? = some other) (hne : other ≠ ns) :
    (step.run s).2.AgreeOn (only ns) s := by
  have hout : ∀ user : UserId, ¬ only ns other user := fun _ ↦ hne
  cases step with
  | insert =>
    cases hstep
    exact ((AgreeOn.refl hs).setTable_outside (hout _) _).bump_outside hout
  | bump =>
    cases hstep
    exact (AgreeOn.refl hs).bump_outside hout
  | setGeneration _ g =>
    cases hstep
    exact (AgreeOn.refl hs).setGeneration_outside hout g
  | call _ call =>
    cases hstep
    exact serve_outside s hs hout call
  | value | defaultValue | tag | generation => exact .refl hs
  | _ => cases hstep

/-- A step about a namespace is answered the same by services that agree on it. -/
theorem AgreeOn.answer_run (h : s.AgreeOn (only ns) t) {step : Scenario.ServiceStep}
    (hstep : step.ns? = some ns) (discreet : step.Discreet) :
    (step.run t).1 = (step.run s).1 := by
  cases step with
  | insert | setGeneration => rfl
  | value _ user name =>
    cases hstep
    exact congrArg Scenario.Answer.text (h.symm.value rfl name)
  | defaultValue _ user name =>
    cases hstep
    have htable := h.symm.table ns user rfl
    exact congrArg
      (fun table : Table ↦ Scenario.Answer.text (table[name]?.bind Entry.default)) htable
  | tag _ user name =>
    cases hstep
    have htable := h.symm.table ns user rfl
    exact congrArg (fun table : Table ↦ Scenario.Answer.text (table[name]?.bind Entry.tag)) htable
  | bump =>
    cases hstep
    have hcounter := (h.bump ns).symm.counter ns .primary rfl
    exact congrArg (fun g ↦ Scenario.Answer.integer g.toInt) hcounter
  | generation =>
    cases hstep
    have hcounter := h.symm.counter ns .primary rfl
    exact congrArg (fun g ↦ Scenario.Answer.integer g.toInt) hcounter
  | @call verb _ call =>
    cases hstep
    have hblind := h.blind_serve (fun _ ↦ rfl) call
    rw [Verb.blind_of_handOver? (s.handOver?_serve ns discreet),
      Verb.blind_of_handOver? (t.handOver?_serve ns discreet)] at hblind
    exact congrArg (Scenario.Answer.outcome verb) hblind.symm
  | _ => cases hstep

end Service

namespace Client

/-- Whether an event is about a namespace or about all of them. -/
def Event.concerns (ns : Namespace) (event : Event) : Bool := event.ns?.all (· == ns)

/-- An event that does not concern a namespace is about another one. -/
theorem Event.concerns_or (ns : Namespace) (event : Event) :
    event.concerns ns = true ∧ (∀ other, event.ns? = some other → other = ns) ∨
      event.concerns ns = false ∧ ∃ other, event.ns? = some other ∧ other ≠ ns := by
  unfold concerns
  cases event.ns? with
  | none => exact .inl ⟨rfl, nofun⟩
  | some other =>
    by_cases heq : other = ns
    · subst heq
      exact .inl ⟨beq_self_eq_true other, fun _ h ↦ (Option.some.inj h).symm⟩
    · exact .inr ⟨beq_false_of_ne heq, other, rfl, heq⟩

namespace Session

/-- Two sessions that one namespace does not tell apart. -/
structure Parallel (ns : Namespace) (s t : Session) : Prop where
  cache : (t.client.cache ns).blind = (s.client.cache ns).blind
  service : s.service.AgreeOn (Service.only ns) t.service
  left : s.Orderly
  right : t.Orderly

namespace Parallel

variable {ns : Namespace} {s t : Session}

/-- The handles of the two caches show the same. -/
theorem shownSame (h : s.Parallel ns t) :
    (s.client.cache ns).ShownSame (Provider.view s.service) (t.client.cache ns)
      (Provider.view t.service) := by
  intro tracker tracker' ht ht'
  rw [h.left.view ht, h.right.view ht', h.service.failReads, h.service.counter ns .primary rfl]

/-- What is done with the namespace leaves the two sessions alike, and it is answered the same. -/
theorem act (h : s.Parallel ns t) {action : Action Scenario.Answer} (hns : action.ns = ns) :
    (s.next (.act action)).Parallel ns (t.next (.act action)) ∧
      (t.step (.act action)).1 = (s.step (.act action)).1 := by
  subst hns
  have hns : (s.client.cache action.ns).ns = action.ns := h.left.tidy.ns action.ns
  have hns' : (t.client.cache action.ns).ns = action.ns := h.right.tidy.ns action.ns
  obtain ⟨hcache, hanswer⟩ := Cache.blind_perform h.cache (h.left.tidy.reporting action.ns)
    (fun _ ↦ hns) h.service h.shownSame action.operation
  refine ⟨⟨?_, h.service.perform (hns.trans hns'.symm) action.operation, h.left.act action,
    h.right.act action⟩, congrArg action.finish hanswer⟩
  have hself : (s.next (.act action)).client.cache action.ns =
    ((s.client.cache action.ns).perform s.service action.operation).state :=
    cache_setCache_self ..
  have hself' : (t.next (.act action)).client.cache action.ns =
    ((t.client.cache action.ns).perform t.service action.operation).state :=
    cache_setCache_self ..
  rw [hself, hself']
  exact hcache

/-- What looks the same looks the same without its tracker and its values. -/
theorem blind_clear (h : s.Parallel ns t) :
    (t.client.cache ns).clear.cache.blind = (s.client.cache ns).clear.cache.blind := by
  have hclear := congrArg (fun c : Cache ↦ c.clear.cache) h.cache
  exact hclear

/-- So does whatever happens to the namespace and to all of them. -/
theorem next (h : s.Parallel ns t) {event : Event} (discreet : event.Discreet)
    (hconcerns : ∀ other, event.ns? = some other → other = ns) :
    (s.next event).Parallel ns (t.next event) ∧
      (event.ns? = some ns → (t.step event).1 = (s.step event).1) := by
  have hleft := h.left.next discreet
  have hright := h.right.next discreet
  cases event with
  | act action =>
    obtain ⟨hnext, hanswer⟩ := h.act (hconcerns _ rfl)
    exact ⟨hnext, fun _ ↦ hanswer⟩
  | clear other =>
    obtain rfl : other = ns := hconcerns other rfl
    refine ⟨⟨?_, ?_, hleft, hright⟩, fun _ ↦ rfl⟩
    · dsimp only [Session.next, Session.step]
      rw [cache_setCache_self, cache_setCache_self]
      exact h.blind_clear
    · exact h.service.congr (Service.contents_accessAll ..) (Service.contents_accessAll ..)
  | clearAll =>
    refine ⟨⟨?_, ?_, hleft, hright⟩, nofun⟩
    · dsimp only [Session.next, Session.step]
      rw [cache_clear, cache_clear]
      exact h.blind_clear
    · exact h.service.congr (Service.contents_accessAll ..) (Service.contents_accessAll ..)
  | change step =>
    exact ⟨⟨h.cache, h.service.run step, hleft, hright⟩,
      fun hns ↦ h.service.answer_run hns discreet⟩

/-- What is about another namespace may happen to one of the two sessions alone. -/
theorem next_left (h : s.Parallel ns t) {event : Event} (discreet : event.Discreet)
    {other : Namespace} (hother : event.ns? = some other) (hne : other ≠ ns) :
    (s.next event).Parallel ns t := by
  have hleft := h.left.next discreet
  cases event with
  | act action =>
    obtain rfl : action.ns = other := Option.some.inj hother
    have hns : (s.client.cache action.ns).ns = action.ns := h.left.tidy.ns action.ns
    have hout : ∀ user, ¬ Service.only ns (s.client.cache action.ns).ns user :=
      fun _ heq ↦ hne (hns.symm.trans heq)
    refine ⟨?_, ?_, hleft, h.right⟩
    · have hcache : (s.next (.act action)).client.cache ns = s.client.cache ns :=
        cache_setCache_of_ne _ _ hne.symm
      rw [hcache]
      exact h.cache
    · exact (Service.AgreeOn.perform_outside s.service h.left.slotted hout
        action.operation).trans h.service
  | clear cleared =>
    obtain rfl : cleared = other := Option.some.inj hother
    refine ⟨?_, ?_, hleft, h.right⟩
    · have hcache : (s.next (.clear cleared)).client.cache ns = s.client.cache ns :=
        cache_setCache_of_ne _ _ hne.symm
      rw [hcache]
      exact h.cache
    · exact h.service.congr (Service.contents_accessAll ..) rfl
  | clearAll => cases hother
  | change step =>
    exact ⟨h.cache, (Service.AgreeOn.run_outside h.left.slotted hother hne).trans h.service, hleft,
      h.right⟩

/-- A session is parallel to the one in which what is about other namespaces does not happen. -/
theorem play (h : s.Parallel ns t) {events : List Event} (discreet : ∀ event ∈ events,
      event.Discreet) :
    (s.play events).Parallel ns (t.play (events.filter (·.concerns ns))) ∧
      t.answers ns (events.filter (·.concerns ns)) = s.answers ns events := by
  induction events generalizing s t with
  | nil => exact ⟨h, rfl⟩
  | cons event rest ih =>
    obtain ⟨hevent, hrest⟩ := List.forall_mem_cons.mp discreet
    rcases event.concerns_or ns with ⟨hconcerns, hns⟩ | ⟨hconcerns, other, hother, hne⟩
    · obtain ⟨hnext, hanswer⟩ := h.next hevent hns
      obtain ⟨hplay, hanswers⟩ := ih hnext hrest
      rw [List.filter_cons_of_pos hconcerns]
      refine ⟨hplay, ?_⟩
      simp only [answers]
      rw [hanswers]
      split
      · next heq => rw [hanswer heq]
      · rfl
    · obtain ⟨hplay, hanswers⟩ := ih (h.next_left hevent hother hne) hrest
      rw [List.filter_cons_of_neg (Bool.eq_false_iff.mp hconcerns)]
      refine ⟨hplay, ?_⟩
      simp only [answers]
      rw [if_neg fun heq ↦ hne (Option.some.inj (hother.symm.trans heq))]
      exact hanswers

end Parallel

/-- Leaving out what is about other namespaces changes neither what a namespace's cache keeps and
counts, nor what the service holds for the namespace, nor what is answered. -/
theorem unaffected_by_other_namespaces (owner : UserId) (config : Config) {service : Service}
    (slotted : service.Slotted) (hindex : service.trackerIndex = none) (ns : Namespace)
    {events : List Event} (discreet : ∀ event ∈ events, event.Discreet) :
    let start : Session := ⟨.unchecked owner config, service⟩
    let whole := start.play events
    let alone := start.play (events.filter (·.concerns ns))
    start.answers ns (events.filter (·.concerns ns)) = start.answers ns events ∧
    (alone.client.cache ns).store.values = (whole.client.cache ns).store.values ∧
    (alone.client.cache ns).store.stems = (whole.client.cache ns).store.stems ∧
    (alone.client.cache ns).generation = (whole.client.cache ns).generation ∧
    (alone.client.cache ns).stats = (whole.client.cache ns).stats ∧
    alone.service.generation ns = whole.service.generation ns ∧
    ∀ user, alone.service.table ns user = whole.service.table ns user := by
  intro start whole alone
  have horderly : start.Orderly :=
    .of_untracked (fun ns ↦ congrArg Cache.ns (cache_unchecked ..))
      (fun ns ↦ congrArg (·.store.tracker) (cache_unchecked owner config ns)) slotted hindex
  have hparallel : start.Parallel ns start := ⟨rfl, .refl slotted, horderly, horderly⟩
  obtain ⟨⟨hcache, hservice, -, -⟩, hanswers⟩ := hparallel.play discreet
  have hvalues := congrArg (·.store.values) hcache
  have hstems := congrArg (·.store.stems) hcache
  have hstats := congrArg Cache.stats hcache
  have hgeneration := congrArg Cache.generation hcache
  rw [Cache.generation_blind, Cache.generation_blind] at hgeneration
  exact ⟨hanswers, hvalues, hstems, hgeneration, hstats, (hservice.counter ns .primary rfl).symm,
    fun user ↦ (hservice.table ns user rfl).symm⟩

/-- Two lookups of a namespace, between them a write and a lookup of another one. -/
def acrossNamespaces : List Event :=
  [.act ((lookup .global "wifi_on" .primary).map Scenario.Answer.ofReading),
    .act ((put .system ⟨"screen_brightness", some "7", .primary, none, false⟩).map
      Scenario.Answer.flag),
    .act ((lookup .system "screen_brightness" .primary).map Scenario.Answer.ofReading),
    .act ((lookup .global "wifi_on" .primary).map Scenario.Answer.ofReading)]

/-- The lookups alone come to what they come to in the whole session. -/
theorem unaffected_by_other_namespaces_acrossNamespaces :
    let start : Session := ⟨.unchecked .primary {}, Service.seeded⟩
    let own := acrossNamespaces.filter (·.concerns .global)
    let alone := start.play own
    own.length = 2 ∧
    start.answers .global own =
      [.reading ⟨some "1", .fastPath, some 2⟩, .reading (.ofCache (some "1") 2)] ∧
    (alone.client.cache .global).store.values["wifi_on"]? = some (some "1") ∧
    (alone.client.cache .global).generation = some 2 ∧
    (alone.client.cache .global).stats.hits = 1 ∧
    alone.service.generation .global = 2 := by
  intro start own alone
  have slotted : Service.seeded.Slotted := rfl
  have discreet : ∀ event ∈ acrossNamespaces, event.Discreet := by
    simp only [acrossNamespaces, List.forall_mem_cons]
    exact ⟨trivial, trivial, trivial, trivial, List.forall_mem_nil _⟩
  obtain ⟨hanswers, hvalues, -, hgeneration, hstats, hcounter, -⟩ :=
    unaffected_by_other_namespaces .primary {} slotted rfl .global discreet
  -- What the two lookups come to in the whole session.
  let asked := lookup .global "wifi_on" .primary
  let later := start.play (acrossNamespaces.take 3)
  have hfirst : (start.client.perform start.service asked).answer =
      .ok ⟨some "1", .fastPath, some 2⟩ := by decide +kernel
  have hagain : (later.client.perform later.service asked).answer =
      .ok (.ofCache (some "1") 2) := by decide +kernel
  have hboth : start.answers .global acrossNamespaces =
      [.ofReading (start.client.perform start.service asked).answer,
        .ofReading (later.client.perform later.service asked).answer] := rfl
  rw [hfirst, hagain] at hboth
  refine ⟨by decide, hanswers.trans hboth, ?_, hgeneration.trans ?_, ?_, hcounter.trans ?_⟩
  · rw [hvalues]
    decide +kernel
  · decide +kernel
  · rw [hstats]
    decide +kernel
  · decide +kernel

end Session

end Client

end SettingsCache
