import SettingsCache.Proofs.Session.Perform

/-!
# Sessions

A session is a cache over a service, to which one thing happens after another: the cache carries out
an operation, gives up what it holds, or something is done to the service behind its back. Nothing
overlaps.
-/

namespace SettingsCache

/-- A cache and the service that it calls. -/
structure Session where
  cache : Cache
  service : Service

/-- What happens to a session. -/
inductive Event where
  /-- The cache carries an operation out. -/
  | operate {kind : Kind} (operation : Operation kind)
  /-- The cache gives up its tracker and its values. -/
  | clear
  /-- Something is done to the service from outside. -/
  | change (step : Scenario.ServiceStep)

namespace Session

/-- A session after an event. -/
def next (s : Session) : Event → Session
  | .operate operation =>
    let performed := s.cache.perform s.service operation
    ⟨performed.state, performed.provider⟩
  | .clear => ⟨s.cache.clear.cache, Provider.accessAll s.service s.cache.clear.accesses⟩
  | .change step => ⟨s.cache, (step.run s.service).2⟩

/-- A session after one event after another. -/
def play (s : Session) (events : List Event) : Session := events.foldl next s

/-- The states of the service, from the first to the last. -/
def history (s : Session) : List Event → List Service
  | [] => [s.service]
  | event :: rest => s.service :: (s.next event).history rest

variable {s t : Session}

theorem next_put (s : Session) (request : PutRequest) :
    s.next (.operate (.put request)) =
      let served := s.service.serve s.cache.ns (.put request)
      ⟨s.cache.afterWrite served.1.isOk, served.2⟩ := by
  dsimp only [next]
  rw [Cache.perform_put]
  rfl

theorem next_reset (s : Session) (request : ResetRequest) :
    s.next (.operate (.reset request)) =
      let served := s.service.serve s.cache.ns (.reset request)
      ⟨s.cache.afterWrite served.1.isOk, served.2⟩ := by
  dsimp only [next]
  rw [Cache.perform_reset]
  rfl

/-- An event leaves the namespace, the owner and the configuration of the cache, and a store that
reports its failures. -/
theorem identity_next (hr : s.cache.store.Reporting) (event : Event) :
    (s.next event).cache.identity = s.cache.identity ∧
      (s.next event).cache.store.Reporting := by
  cases event with
  | operate operation => exact s.cache.identity_perform s.service operation hr
  | clear => exact ⟨rfl, nofun⟩
  | change => exact ⟨rfl, hr⟩

theorem ns_next (hr : s.cache.store.Reporting) (event : Event) :
    (s.next event).cache.ns = s.cache.ns := Cache.ns_of_identity (identity_next hr event).1

/-- Services that agree go on to agree if the same happens to both, whatever the caches hold. -/
theorem agree_next {part : Service.Part} (h : s.service.AgreeOn part t.service)
    (hns : s.cache.ns = t.cache.ns) (event : Event) :
    (s.next event).service.AgreeOn part (t.next event).service := by
  cases event with
  | operate operation => exact h.perform hns operation
  | clear => exact h.congr (Service.contents_accessAll ..) (Service.contents_accessAll ..)
  | change step => exact h.run step

theorem agree_play {part : Service.Part} (h : s.service.AgreeOn part t.service)
    (hs : s.cache.store.Reporting) (ht : t.cache.store.Reporting)
    (hns : s.cache.ns = t.cache.ns) (events : List Event) :
    (s.play events).service.AgreeOn part (t.play events).service := by
  induction events generalizing s t with
  | nil => exact h
  | cons event rest ih =>
    apply ih (agree_next h hns event) (identity_next hs event).2 (identity_next ht event).2
    rw [ns_next hs, ns_next ht, hns]

/-- A new cache of the primary user over the seeded service. -/
def seeded : Session := ⟨{ ns := .global, owner := .primary, config := {} }, Service.seeded⟩

end Session

/-- An event that keeps the service to its word about a namespace and does not set the counter of
the namespace. -/
def Event.Fair (ns : Namespace) : Event → Prop
  | .operate _ | .clear => True
  | .change step => step.Fair ns

end SettingsCache
