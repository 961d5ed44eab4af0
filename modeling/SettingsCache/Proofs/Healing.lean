import Mathlib.Control.Monad.Basic
import SettingsCache.Proofs.Healing.First
import SettingsCache.Proofs.Session.Reached

/-!
# A cache heals and stays effective

Whatever a cache has been through, one lookup gets the value at hand once the service is ready, and
from then on the cache answers by itself: for as long as the counter stands where it stood, the
cache is not cleared and the handle of its tracker is not closed from outside, nothing that its
client or anyone else does takes the value away.
-/

namespace SettingsCache

open Service (bumps)

namespace Service

variable {s : Service} {ns : Namespace}

/-- A step that leaves the counter of a namespace where it stands leaves the entries, too. -/
theorem tables_run (hs : s.Slotted) (step : Scenario.ServiceStep)
    (hg : (step.run s).2.generation ns = s.generation ns) :
    (step.run s).2.tables.get ns = s.tables.get ns := by
  cases step with
  | setGeneration | setFault | setTrackerIndex => rfl
  | insert other user name value =>
    have orderly : (Scenario.ServiceStep.insert other user name value).Orderly ns := trivial
    exact (ticks_run hs orderly).tables_eq hg
  | call other call =>
    have orderly : (Scenario.ServiceStep.call other call).Orderly ns := trivial
    exact (ticks_run hs orderly).tables_eq hg
  | closeHandle place =>
    have orderly : (Scenario.ServiceStep.closeHandle place).Orderly ns := trivial
    exact (ticks_run hs orderly).tables_eq hg
  | _ => rfl

end Service

namespace Client

/-- An event leaves the tracker of a namespace's cache alone: the cache is not cleared, and the
handle is not closed from outside. -/
def Session.Spares (ns : Namespace) (s : Session) : Event → Prop
  | .clear other => other ≠ ns
  | .clearAll => False
  | .change (.closeHandle place) =>
    ∀ handle, s.service.handles[place]? = some handle → handle ∉ (s.client.cache ns).store.owned
  | .act _ | .change _ => True

/-- Events that all spare the tracker of a namespace's cache, while the counter stands where it
stands and can be read. -/
def Session.Calm (ns : Namespace) (s : Session) : List Event → Prop
  | [] => True
  | event :: rest =>
    s.Spares ns event ∧ (s.next event).service.generation ns = s.service.generation ns ∧
      (s.next event).service.block.failReads = false ∧ (s.next event).Calm ns rest

namespace Session

variable {s : Session} {ns : Namespace}

/-- What an event leaves of the service as it was, if the counter of a namespace stays. -/
theorem service_next (hs : s.service.Slotted) (event : Event)
    (hg : (s.next event).service.generation ns = s.service.generation ns) :
    (s.next event).service.Slotted ∧ (s.next event).service.ownUser = s.service.ownUser ∧
      (s.next event).service.tables.get ns = s.service.tables.get ns := by
  have quiet {service : Service} (hcontents : service.contents = s.service.contents) :
      service.Slotted ∧ service.ownUser = s.service.ownUser ∧
        service.tables.get ns = s.service.tables.get ns :=
    ⟨Service.slotted_of_contents hcontents hs, Service.ownUser_of_contents hcontents,
      congrArg (·.get ns) (Service.tables_of_contents hcontents)⟩
  cases event with
  | act action =>
    have hsetup := Service.setup_perform s.service (s.client.cache action.ns) action.operation
    have hticks := Service.ticks_perform hs ns (s.client.cache action.ns) action.operation
    exact ⟨Service.slotted_of_setup hsetup hs, Service.ownUser_of_setup hsetup,
      hticks.tables_eq hg⟩
  | clear other => exact quiet (Service.contents_accessAll ..)
  | clearAll => exact quiet (Service.contents_accessAll ..)
  | change step =>
    exact ⟨Service.slotted_run hs step, Service.ownUser_run s.service step,
      Service.tables_run hs step hg⟩

theorem identity_next (tidy : s.Tidy) (event : Event) (ns : Namespace) :
    ((s.next event).client.cache ns).identity = (s.client.cache ns).identity := by
  have moved {other : Namespace} {c : Cache} (hi : c.identity = (s.client.cache other).identity) :
      ((s.client.setCache other c).cache ns).identity = (s.client.cache ns).identity := by
    by_cases heq : ns = other
    · subst heq
      rw [cache_setCache_self]
      exact hi
    · rw [cache_setCache_of_ne _ _ heq]
  cases event with
  | act action =>
    exact moved ((s.client.cache action.ns).identity_perform s.service action.operation
      (tidy.reporting action.ns)).1
  | clear other => exact moved rfl
  | clearAll =>
    have hcleared := congrArg Cache.identity (cache_clear s.client ns)
    exact hcleared
  | change => rfl

/-- A tidy session in which the cache of a namespace has a value at hand that the service holds. -/
structure Effective (s : Session) (ns : Namespace) (name : String) (value : Option String)
    (g : Generation) : Prop where
  tidy : s.Tidy
  holds : s.service.Holds (s.client.cache ns) name value g
  atHand : (s.client.cache ns).AtHand s.service name value g

namespace Effective

variable {name : String} {value : Option String} {g : Generation}

/-- An event that spares the tracker leaves the value at hand. -/
theorem atHand_next (h : s.Effective ns name value g) {event : Event} (spares : s.Spares ns event) :
    ((s.next event).client.cache ns).AtHand (s.next event).service name value g := by
  -- What another cache does minds the handle of this one.
  have minded {other : Namespace} {c : Cache} {service : Service} (hne : ns ≠ other)
      (hminds : (s.client.cache other).store.Minds s.service c.store service) :
      ((s.client.setCache other c).cache ns).AtHand service name value g := by
    rw [cache_setCache_of_ne _ _ hne]
    refine h.atHand.congr rfl rfl fun handle hmem ho ↦ hminds.spared handle ho ?_
    exact fun hmem' ↦ hne (h.tidy.apart other ns handle hmem' hmem)
  cases event with
  | act action =>
    by_cases heq : ns = action.ns
    · subst heq
      have hself : (s.next (.act action)).client.cache action.ns =
        ((s.client.cache action.ns).perform s.service action.operation).state :=
        cache_setCache_self ..
      rw [hself]
      exact h.atHand.perform h.holds (h.tidy.reporting action.ns) action.operation
    · exact minded heq ((s.client.cache action.ns).minds_perform (h.tidy.reporting action.ns)
        s.service action.operation)
  | clear other => exact minded (Ne.symm spares) ((s.client.cache other).minds_clear s.service)
  | clearAll => exact spares.elim
  | change step =>
    refine h.atHand.congr rfl rfl fun handle hmem ho ↦ ?_
    cases step with
    | closeHandle place =>
      dsimp only [next, Session.step, Scenario.ServiceStep.run]
      split
      · next closed hplace =>
        apply ho.access
        rintro heq
        exact spares closed hplace (Option.some.inj heq ▸ hmem)
      · exact ho
    | call other call => exact ho.serve other call
    | _ => exact ho

theorem next (h : s.Effective ns name value g) {event : Event} (spares : s.Spares ns event)
    (hg : (s.next event).service.generation ns = s.service.generation ns)
    (hreads : (s.next event).service.block.failReads = false) :
    (s.next event).Effective ns name value g := by
  have hidentity := identity_next h.tidy event ns
  have hns := h.tidy.ns ns
  have hns' : ((s.next event).client.cache ns).ns = ns := (h.tidy.next event).ns ns
  have howner : ((s.next event).client.cache ns).owner = (s.client.cache ns).owner :=
    Cache.owner_of_identity hidentity
  obtain ⟨hslotted, huser, htables⟩ := service_next h.holds.slotted event hg
  have hcounter := h.holds.counter
  have hvalue := h.holds.value
  rw [hns] at hcounter hvalue
  refine ⟨h.tidy.next event, ⟨hslotted, ?_, hreads, ?_, ?_⟩, h.atHand_next spares⟩
  · exact howner.trans (h.holds.own.trans huser.symm)
  · rw [hns']
    exact hg.trans hcounter
  · rw [hns', howner]
    exact (Service.value_congr htables _ name).trans hvalue

/-- The value stays at hand as long as all is calm. -/
theorem play (h : s.Effective ns name value g) {events : List Event} (calm : s.Calm ns events) :
    (s.play events).Effective ns name value g ∧
      ((s.play events).client.cache ns).identity = (s.client.cache ns).identity := by
  induction events generalizing s with
  | nil => exact ⟨h, rfl⟩
  | cons event rest ih =>
    obtain ⟨spares, hg, hreads, hrest⟩ := calm
    obtain ⟨hplay, hidentity⟩ := ih (h.next spares hg hreads) hrest
    exact ⟨hplay, hidentity.trans (identity_next h.tidy event ns)⟩

/-- A lookup that gets a value at hand leaves an effective session. -/
theorem of_lookup {client : Client} {service : Service} (tidy : Tidy ⟨client, service⟩)
    (holds : service.Holds (client.cache ns) name value g)
    (hatHand :
      let performed := (client.cache ns).perform service (.lookup name (client.cache ns).owner)
      performed.state.AtHand performed.provider name value g) :
    let first := client.perform service (Client.lookup ns name (client.cache ns).owner)
    Effective ⟨first.state, first.provider⟩ ns name value g ∧
      (first.state.cache ns).identity = (client.cache ns).identity := by
  intro first
  let own : Operation .lookup := .lookup name (client.cache ns).owner
  obtain ⟨hidentity, -⟩ := (client.cache ns).identity_perform service own (tidy.reporting ns)
  have hself : first.state.cache ns = ((client.cache ns).perform service own).state :=
    cache_setCache_self ..
  have htidy := tidy.act ((Client.lookup ns name (client.cache ns).owner).map
    Scenario.Answer.ofReading)
  have holds' := holds.congr hidentity
    (Service.contents_perform service (client.cache ns) own nofun)
  exact ⟨⟨htidy, hself ▸ holds', hself ▸ hatHand⟩, hself ▸ hidentity⟩

/-- In an effective session a lookup is answered from the cache, with one read of the block. -/
theorem perform_lookup (h : s.Effective ns name value g)
    (hcaching : (s.client.cache ns).config.caching = true) :
    let again := s.client.perform s.service (Client.lookup ns name (s.client.cache ns).owner)
    again.answer = .ok (.ofCache value g) ∧
      ∃ handle, again.provider = s.service.access (.read handle ns.slot) := by
  obtain ⟨hanswer, handle, hread⟩ := h.atHand.perform_lookup h.holds hcaching
  refine ⟨congrArg (Except.mapError Error.remote) hanswer, handle, ?_⟩
  rw [h.tidy.ns ns] at hread
  exact hread

end Effective

/-- One lookup makes a session effective in which the service is ready, if the cache is sound. -/
theorem effective_of_sound (tidy : s.Tidy) {history : List Service}
    (sound : SettingsCache.Session.Sound history ⟨s.client.cache ns, s.service⟩)
    (hbumps : bumps ns history < 2 ^ 32) (hconfig : (s.client.cache ns).config = {})
    (ready : s.service.Ready ns) (name : String) :
    let owner := (s.client.cache ns).owner
    let first := s.client.perform s.service (Client.lookup ns name owner)
    (∃ reading, first.answer = .ok reading ∧
      reading.value = s.service.value ns owner name) ∧
    Effective ⟨first.state, first.provider⟩ ns name (s.service.value ns owner name)
      (s.service.generation ns) ∧
    (first.state.cache ns).identity = (s.client.cache ns).identity := by
  intro owner first
  have hns : (s.client.cache ns).ns = ns := tidy.ns ns
  have hknown (answer : Kind.lookup.Answer)
      (h : (s.client.cache ns).known? (Provider.view s.service) (.lookup name owner) =
        some answer) := (sound.known_lookup (hns.symm ▸ hbumps) h).2
  have hatHand := Cache.atHand_first (hns.symm ▸ ready) sound.own hconfig sound.reporting
    sound.kept.slot hknown
  obtain ⟨reading, hanswer, hvalue⟩ :=
    Cache.answer_first (hns.symm ▸ ready) sound.own hconfig hknown
  have holds : s.service.Holds (s.client.cache ns) name (s.service.value ns owner name)
      (s.service.generation ns) :=
    ⟨ready.slotted, sound.own, ready.reads, congrArg _ hns, by rw [hns]⟩
  dsimp only at hatHand hanswer hvalue
  rw [hns] at hatHand hvalue
  exact ⟨⟨reading, congrArg (Except.mapError Error.remote) hanswer, hvalue⟩,
    Effective.of_lookup tidy holds hatHand⟩

end Session

end Client

namespace Overlap

variable {start s : Overlap Service} {log : List (Moment Service)}

/-- A client is tidy that has the cache of a run and, for the other namespaces, caches without a
tracker. -/
theorem Run.tidy (run : Run start.Fair start log s) (fresh : start.Fresh) {client : Client}
    (hcache : client.cache start.cache.ns = s.cache) (hns : ∀ ns, (client.cache ns).ns = ns)
    (hnone : ∀ ns ≠ start.cache.ns, (client.cache ns).store.tracker = none) :
    Client.Session.Tidy ⟨client, s.provider⟩ := by
  have howner {ns : Namespace} {h : Handle} (hmem : h ∈ (client.cache ns).store.owned) :
      ns = start.cache.ns := by
    apply Decidable.byContradiction
    intro hne
    rw [Store.owned_of_untracked (hnone ns hne)] at hmem
    cases hmem
  constructor
  case ns => exact hns
  case reporting =>
    intro ns
    by_cases heq : ns = start.cache.ns
    · rw [heq, hcache]
      exact run.reporting fresh
    · intro t ht
      cases (hnone ns heq).symm.trans ht
  case issued =>
    intro ns h hmem
    have heq := howner hmem
    rw [heq, hcache] at hmem
    exact run.opened_of_owned fresh (Service.lawful_custody _) hmem
  case apart =>
    exact fun ns other h hmem hmem' ↦ (howner hmem').trans (howner hmem).symm

/-- Wherever a run has led, one lookup by the owner of the cache is answered what the service holds,
if the service is ready, and while all is calm from then on, every later lookup is answered the same
from the cache, with one read of the block and no call. -/
theorem Run.heals (run : Run start.Fair start log s) (opening : start.Opening)
    (hconfig : start.cache.config = {})
    (hbumps : bumps start.cache.ns (providers log s) < 2 ^ 32)
    (ready : s.provider.Ready start.cache.ns) {client : Client}
    (hcache : client.cache start.cache.ns = s.cache)
    (tidy : Client.Session.Tidy ⟨client, s.provider⟩) (name : String) :
    let ns := start.cache.ns
    let lookup := Client.lookup ns name start.cache.owner
    let first := client.perform s.provider lookup
    ∃ reading, first.answer = .ok reading ∧
      reading.value = s.provider.value ns start.cache.owner name ∧
      ∀ events, Client.Session.Calm ns ⟨first.state, first.provider⟩ events →
        let later := Client.Session.play ⟨first.state, first.provider⟩ events
        let again := later.client.perform later.service lookup
        again.answer = .ok (.ofCache reading.value (s.provider.generation ns)) ∧
          ∃ handle, again.provider = later.service.access (.read handle ns.slot) := by
  have hidentity : (client.cache start.cache.ns).identity = start.cache.identity :=
    (congrArg Cache.identity hcache).trans (run.identity opening.fresh)
  have howner : (client.cache start.cache.ns).owner = start.cache.owner :=
    Cache.owner_of_identity hidentity
  have hconfig' : (client.cache start.cache.ns).config = {} :=
    (Cache.config_of_identity hidentity).trans hconfig
  have sound := run.session opening
  rw [← hcache] at sound
  rw [← howner]
  intro ns lookup first
  obtain ⟨⟨reading, hanswer, hvalue⟩, heffective, hfirst⟩ :=
    Client.Session.effective_of_sound tidy sound hbumps hconfig' ready name
  refine ⟨reading, hanswer, hvalue, ?_⟩
  intro events calm later again
  obtain ⟨hlater, hplayed⟩ := heffective.play calm
  have hidentity' := hplayed.trans hfirst
  have howner' : (later.client.cache ns).owner = (client.cache ns).owner :=
    Cache.owner_of_identity hidentity'
  have hconfig'' : (later.client.cache ns).config = {} :=
    (Cache.config_of_identity hidentity').trans hconfig'
  have hcaching : (later.client.cache ns).config.caching = true :=
    congrArg Config.caching hconfig''
  have hagain := hlater.perform_lookup hcaching
  rw [howner', ← hvalue] at hagain
  exact hagain

/-- A lookup gets a tracker, whose handle is then closed from outside. -/
def deadHandle : List (Moment Service) × Overlap Service :=
  let (log, s) := seeded.play [] [.begin (.lookup "wifi_on" .primary), .answer 0, .resume 0]
  (log ++ [⟨s, .moved⟩],
    { s with provider := ((Scenario.ServiceStep.closeHandle 0).run s.provider).2 })

theorem run_deadHandle : Run seeded.Fair seeded deadHandle.1 deadHandle.2 := by
  have run : Run seeded.Fair seeded _ _ :=
    Run.nil.play [.begin (.lookup "wifi_on" .primary), .answer 0, .resume 0]
  exact run.snoc (.move _ (.step (.closeHandle 0) trivial))

/-- A client with the cache whose tracker is lost. -/
def bereft : Client := (Client.unchecked .primary {}).setCache .global deadHandle.2.cache

/-- A listing, a lookup for another user and a write to another namespace. -/
def bustle : List Client.Event :=
  [.act ((Client.texts .global "wifi" .primary).map (.attempt .texts)),
    .act ((Client.lookup .global "wifi_on" ⟨10⟩).map .ofReading),
    .act ((Client.put .system ⟨"screen_brightness", some "7", .primary, none, false⟩).map .flag)]

theorem heals_deadHandle :
    let lookup := Client.lookup .global "wifi_on" .primary
    let first := bereft.perform deadHandle.2.provider lookup
    let later := Client.Session.play ⟨first.state, first.provider⟩ bustle
    first.answer = .ok ⟨some "1", .fastPath, some 2⟩ ∧
      (later.client.perform later.service lookup).answer = .ok (.ofCache (some "1") 2) := by
  intro lookup first later
  have hbumps : bumps .global (providers deadHandle.1 deadHandle.2) < 2 ^ 32 := by decide +kernel
  have ready : deadHandle.2.provider.Ready .global :=
    ⟨rfl, rfl, rfl, rfl, rfl, nofun, rfl⟩
  have calm : Client.Session.Calm .global ⟨first.state, first.provider⟩ bustle :=
    ⟨trivial, by decide +kernel, by decide +kernel, trivial, by decide +kernel, by decide +kernel,
      trivial, by decide +kernel, by decide +kernel, trivial⟩
  have hfirst : first.answer = .ok ⟨some "1", .fastPath, some 2⟩ := by decide +kernel
  have hcache : bereft.cache .global = deadHandle.2.cache := rfl
  have tidy : Client.Session.Tidy ⟨bereft, deadHandle.2.provider⟩ := by
    apply run_deadHandle.tidy fresh_seeded hcache
    · intro ns
      cases ns <;> rfl
    · intro ns hne
      cases ns with
      | global => exact absurd rfl hne
      | system | secure | config => rfl
  obtain ⟨reading, hanswer, -, hlater⟩ :=
    run_deadHandle.heals opening_seeded rfl hbumps ready hcache tidy "wifi_on"
  obtain rfl := Except.ok.inj (hfirst.symm.trans hanswer)
  have hg : deadHandle.2.provider.generation .global = 2 := by decide +kernel
  have hagain := (hlater bustle calm).1
  exact ⟨hfirst, hg ▸ hagain⟩

end Overlap

end SettingsCache
