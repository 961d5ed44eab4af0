import Mathlib.Control.Monad.Basic
import SettingsCache.Proofs.Session.Known

/-!
# Keeping values refines going out

A cache that keeps values is compared with one that goes out for every read, over two services to
which the same is done. What the first knows by itself is what its service holds, and what it does
not know is what the second is told, the complaints included.
-/

namespace SettingsCache

open Service (bumps)

/-! ## What can go wrong with a read -/

/-- The complaint that a fault brings about. -/
def Fault.complaint? (ns : Namespace) : Fault → Option RemoteError
  | .failGet => some (Service.injected ns .get)
  | .getUnsupported => some (.unsupported (ns.method .get))
  | .emptyGetReply => some (.communication (ns.method .get) "empty reply")
  | .failQuery => some (Service.injected ns .query)
  | .failList => some (Service.injected ns .list)
  | .failWrites | .withholdTracker | .misnamedQueryRows => none

namespace Service

variable {s : Service} {config : Config} (ns : Namespace) (user : UserId)

/-- A complaint comes from a fault that is switched on. -/
def Faulted (s : Service) (ns : Namespace) (e : RemoteError) : Prop :=
  ∃ fault, s.hasFault fault = true ∧ fault.complaint? ns = some e

/-- What an operation comes to if nothing fails. -/
def held (s : Service) (ns : Namespace) {kind : Kind} : Operation kind → kind.Said
  | .lookup name user => .ok (s.value ns user name)
  | .list stem user => .ok ((NameMap.withStem (s.table ns user) stem).select Entry.value)
  | .put _ | .reset _ => true

theorem fastRead_faulted (name : String) :
    s.fastRead ns user name = .ok (s.value ns user name) ∨
      ∃ e, s.Faulted ns e ∧ s.fastRead ns user name = .error e := by
  unfold fastRead
  split
  · next hfault => exact .inr ⟨_, ⟨_, hfault, rfl⟩, rfl⟩
  · split
    · next hfault => exact .inr ⟨_, ⟨_, hfault, rfl⟩, rfl⟩
    · split
      · next hfault => exact .inr ⟨_, ⟨_, hfault, rfl⟩, rfl⟩
      · exact .inl rfl

theorem queried_faulted (named : s.hasFault .misnamedQueryRows = false) (name : String) :
    s.queried ns user name = .ok (s.value ns user name) ∨
      ∃ e, s.Faulted ns e ∧ s.queried ns user name = .error e := by
  unfold queried
  rw [named]
  split
  · next hfault => exact .inr ⟨_, ⟨_, hfault, rfl⟩, rfl⟩
  · exact .inl rfl

theorem lookedUp_faulted (hfast : config.fastPath = true)
    (named : s.hasFault .misnamedQueryRows = false) (name : String) :
    s.lookedUp config ns user name = .ok (s.value ns user name) ∨
      ∃ e, s.Faulted ns e ∧ s.lookedUp config ns user name = .error e := by
  unfold lookedUp
  rw [if_pos hfast]
  obtain hread | ⟨e, hfaulted, hread⟩ := fastRead_faulted ns user name (s := s)
  · rw [hread]
    exact .inl rfl
  · rw [hread]
    dsimp only
    split
    · exact queried_faulted ns user named name
    · exact .inr ⟨e, hfaulted, rfl⟩

theorem listed_faulted (hfast : config.fastPath = true) (stem : String) :
    s.listed config ns user stem =
        .ok ((NameMap.withStem (s.table ns user) stem).select Entry.value) ∨
      ∃ e, s.Faulted ns e ∧ s.listed config ns user stem = .error e := by
  unfold listed
  rw [if_pos hfast]
  split
  · next hfault => exact .inr ⟨_, ⟨_, hfault, rfl⟩, rfl⟩
  · exact .inl rfl

/-- With fast reads, a read comes to what the service holds, or it fails by a fault that is switched
on. -/
theorem answer_faulted (hfast : config.fastPath = true)
    (named : s.hasFault .misnamedQueryRows = false) {kind : Kind} (operation : Operation kind)
    (hkind : kind ≠ .write) :
    s.answer config ns operation = s.held ns operation ∨
      ∃ e, s.Faulted ns e ∧ kind.complaint? (s.answer config ns operation) = some e := by
  cases operation with
  | lookup name user =>
    obtain h | ⟨e, hfaulted, h⟩ := lookedUp_faulted ns user hfast named name
    · exact .inl h
    · exact .inr ⟨e, hfaulted, congrArg Kind.lookup.complaint? h⟩
  | list stem user =>
    obtain h | ⟨e, hfaulted, h⟩ := listed_faulted (s := s) ns user hfast stem
    · exact .inl h
    · exact .inr ⟨e, hfaulted, congrArg Kind.listing.complaint? h⟩
  | put | reset => exact absurd rfl hkind

end Service

namespace Session.Sound

variable {history : List Service} {s : Session}

/-- What a cache knows by itself is what the service holds. -/
theorem known_held (h : s.Sound history) (hbumps : bumps s.cache.ns history < 2 ^ 32)
    {kind : Kind} {operation : Operation kind} {answer : kind.Answer}
    (hknown : s.cache.known? (Provider.view s.service) operation = some answer) :
    s.cache.config.fastPath = true ∧ kind ≠ .write ∧
      kind.said answer = s.service.held s.cache.ns operation := by
  cases operation with
  | lookup name user =>
    obtain ⟨hfast, hsaid⟩ := h.known_lookup hbumps hknown
    exact ⟨hfast, nofun, hsaid⟩
  | list stem user =>
    obtain ⟨hfast, hsaid⟩ := h.known_list hbumps hknown
    exact ⟨hfast, nofun, hsaid⟩
  | put | reset => cases hknown

end Session.Sound

/-! ## The refinement -/

/-- The cache with nothing to keep, which goes out for every read. -/
def Cache.plain (c : Cache) : Cache :=
  { c with config := { c.config with caching := false, tracking := false } }

/-- The session of the cache that goes out for every read. -/
def Session.plain (s : Session) : Session := { s with cache := s.cache.plain }

namespace Session

variable {start : Session} {events : List Event}

theorem Opening.plain (h : start.Opening) : start.plain.Opening := ⟨h.store, h.own, h.honest⟩

/-- A cache over the same settings as another says the same, but for what it knows by itself while a
fault keeps the other from being told. -/
theorem refines (opening : start.Opening)
    (fair : ∀ event ∈ events, event.Fair start.cache.ns)
    (hbumps : bumps start.cache.ns (start.history events) < 2 ^ 32) :
    let keeping := start.play events
    let plain := start.plain.play events
    (∀ ns user, keeping.service.table ns user = plain.service.table ns user) ∧
    (∀ ns, keeping.service.generation ns = plain.service.generation ns) ∧
    ∀ {kind : Kind} (operation : Operation kind),
      let said := kind.said (keeping.cache.perform keeping.service operation).answer
      let plainly := kind.said (plain.cache.perform plain.service operation).answer
      said = plainly ∨
        (keeping.cache.known? (Provider.view keeping.service) operation).isSome ∧
          ∃ e, plain.service.Faulted start.cache.ns e ∧ kind.complaint? plainly = some e := by
  intro keeping plain
  have hopening := opening.plain
  have hagree : keeping.service.AgreeOn (fun _ _ ↦ True) plain.service :=
    agree_play (s := start) (t := start.plain) (.refl opening.honest.slotted)
      opening.sound.reporting hopening.sound.reporting rfl events
  refine ⟨fun ns user ↦ hagree.table ns user trivial,
    fun ns ↦ hagree.counter ns .primary trivial, ?_⟩
  intro kind operation said plainly
  obtain ⟨hsound, hidentity⟩ := Sound.play [] opening.sound fair
  obtain ⟨hsound', hidentity'⟩ := Sound.play (s := start.plain) [] hopening.sound fair
  have hns : keeping.cache.ns = start.cache.ns := Cache.ns_of_identity hidentity
  have hns' : plain.cache.ns = start.plain.cache.ns := Cache.ns_of_identity hidentity'
  have hconfig : keeping.cache.config = start.cache.config := Cache.config_of_identity hidentity
  have hconfig' : plain.cache.config = start.plain.cache.config :=
    Cache.config_of_identity hidentity'
  -- The other cache is told what the service has to say, and so is this one unless it knows.
  have hplainly : plainly = keeping.service.answer start.cache.config start.cache.ns operation := by
    have hunknown : plain.cache.known? (Provider.view plain.service) operation = none := by
      apply Cache.known?_of_not_caching
      rw [hconfig']
      rfl
    refine (Cache.said_perform hsound'.honest.slotted hsound'.own operation hunknown).trans ?_
    rw [hconfig', hns', ← hagree.answer _ (fun _ ↦ trivial)]
    cases operation <;> rfl
  cases hknown : keeping.cache.known? (Provider.view keeping.service) operation with
  | none =>
    refine .inl ((Cache.said_perform hsound.honest.slotted hsound.own operation hknown).trans ?_)
    rw [hplainly, hconfig, hns]
  | some answer =>
    have hbumps' : bumps keeping.cache.ns (start.history events) < 2 ^ 32 := hns ▸ hbumps
    obtain ⟨hfast, hread, hheld⟩ := hsound.known_held hbumps' hknown
    rw [hconfig] at hfast
    have hsaid : said = keeping.service.held start.cache.ns operation := by
      rw [← hns, ← hheld]
      exact congrArg kind.said (Cache.answer_of_known hknown)
    have hnamed := hsound.honest.named
    obtain h | ⟨e, ⟨fault, hfault, hcomplaint⟩, h⟩ :=
      Service.answer_faulted start.cache.ns hfast hnamed operation hread
    · exact .inl (hsaid.trans (h.symm.trans hplainly.symm))
    · refine .inr ⟨rfl, e, ⟨fault, ?_, hcomplaint⟩, hplainly ▸ h⟩
      rw [← hagree.hasFault]
      exact hfault

theorem opening_seeded : seeded.Opening := ⟨rfl, rfl, rfl, rfl, nofun⟩

/-- A lookup, after which nothing can be read any more. -/
def cutOff : List Event :=
  [.operate (.lookup "wifi_on" .primary), .change (.setFault .failGet true),
    .change (.setFault .failQuery true)]

theorem refines_cutOff :
    let keeping := seeded.play cutOff
    let plain := seeded.plain.play cutOff
    let again : Operation .lookup := .lookup "wifi_on" .primary
    (keeping.cache.perform keeping.service again).answer = .ok ⟨some "1", .cache, some 2⟩ ∧
      ∃ e, plain.service.Faulted .global e ∧
        Kind.lookup.complaint?
          (Kind.lookup.said (plain.cache.perform plain.service again).answer) = some e := by
  intro keeping plain again
  have fair : ∀ event ∈ cutOff, event.Fair seeded.cache.ns := by
    simp only [cutOff, List.forall_mem_cons]
    exact ⟨trivial, nofun, nofun, List.forall_mem_nil _⟩
  have hbumps : bumps .global (seeded.history cutOff) < 2 ^ 32 := by decide +kernel
  have hanswer : (keeping.cache.perform keeping.service again).answer =
      .ok ⟨some "1", .cache, some 2⟩ := by decide +kernel
  obtain ⟨-, -, h⟩ := refines opening_seeded fair hbumps
  obtain h | ⟨-, h⟩ := h again
  · have hfails : (Kind.lookup.complaint?
        (Kind.lookup.said (plain.cache.perform plain.service again).answer)).isSome := by
      decide +kernel
    rw [← h, hanswer] at hfails
    cases hfails
  · exact ⟨hanswer, h⟩

end Session

end SettingsCache
