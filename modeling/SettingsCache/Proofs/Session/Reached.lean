import SettingsCache.Proofs.Session.Clients
import SettingsCache.Proofs.Session.Known

/-!
# Sessions that are reached

What a run has led to is sound as a session (`Overlap.Run.session`), and it stays sound under all
that the client of the cache goes on to do, with this cache or another, and under all fair changes
of the service (`Client.Session.sound_play`). In a sound session a lookup that is answered tells
what the service holds.
-/

namespace SettingsCache

open Service (bumps)

/-! ## What runs lead to -/

namespace Overlap

section Slow

variable {σ : Type} [Provider σ] {moves : σ → σ → Prop} {start s : Overlap σ}
  {log : List (Moment σ)}

/-- A cache that makes no fast reads gets no tracker, however its operations overlap. -/
theorem Run.tracker_of_slow (run : Run moves start log s) (fresh : start.Fresh)
    (hslow : start.cache.config.fastPath = false) :
    s.cache.store.tracker = none ∧ ∀ o ∈ s.outstanding, o.verb ≠ .get ∧ o.verb ≠ .list := by
  induction run with
  | nil =>
    rw [fresh.store, fresh.outstanding]
    exact ⟨rfl, fun _ ho ↦ absurd ho List.not_mem_nil⟩
  | @snoc log s s' deed run step ih =>
    obtain ⟨hnone, hout⟩ := ih
    have hslow' : s.cache.config.fastPath = false :=
      (congrArg Config.fastPath (Cache.config_of_identity (run.identity fresh))).trans hslow
    cases step with
    | begin operation hturn =>
      obtain ⟨htracker, hcalls⟩ :=
        Cache.start_of_slow hslow' hnone (Provider.view s.provider) operation
      refine ⟨hturn ▸ htracker, fun o ho ↦ ?_⟩
      rcases List.mem_append.mp ho with hold | hnew
      · exact hout o hold
      · rw [hturn] at hnew
        cases hresult : (s.cache.start (Provider.view s.provider) operation).result with
        | done answer =>
          rw [hresult] at hnew
          exact absurd hnew List.not_mem_nil
        | calling call pending =>
          rw [hresult] at hnew
          rw [List.mem_singleton.mp hnew]
          exact hcalls call pending hresult
    | note hplace | answer hplace =>
      rw [hplace] at hout
      simp only [List.forall_mem_append, List.forall_mem_cons] at hout ⊢
      exact ⟨hnone, hout⟩
    | @resume _ _ operation since _ pending _ outcome turn before after hplace hturn =>
      rw [hplace] at hout
      simp only [List.forall_mem_append, List.forall_mem_cons] at hout
      obtain ⟨htracker, answer, hdone⟩ :=
        Cache.tracker_resume_of_other hnone pending outcome hout.2.1
      rw [← hturn] at htracker hdone
      have hnil : turn.result.outstanding operation since = [] := by
        rw [hdone]
        rfl
      refine ⟨htracker, ?_⟩
      change ∀ o ∈ before ++ turn.result.outstanding operation since ++ after, _
      rw [hnil, List.append_nil]
      exact List.forall_mem_append.mpr ⟨hout.1, hout.2.2⟩
    | clear => exact ⟨rfl, hout⟩
    | move => exact ⟨hnone, hout⟩

end Slow

variable {start s : Overlap Service} {log : List (Moment Service)}

/-- What a run has led to is sound as a session. -/
theorem Run.session (run : Run start.Fair start log s) (opening : start.Opening) :
    Session.Sound (providers log s) ⟨s.cache, s.provider⟩ := by
  have hns := run.ns opening.fresh
  have howner := run.owner opening.fresh
  have hconfig := Cache.config_of_identity (run.identity opening.fresh)
  obtain ⟨honest, huser⟩ := run.honest opening
  refine ⟨run.reporting opening.fresh, ?_, ?_, ?_, getLast?_providers log s, ⟨?_, ?_⟩, ?_⟩
  all_goals dsimp only
  · rw [howner, opening.own, huser]
  · rw [hns]
    exact honest
  · rw [hns]
    exact run.ticking opening
  · rw [hns, howner]
    exact run.coherent opening
  · rw [hns]
    exact fun t ↦ run.slot_eq opening
  · rw [hconfig]
    exact fun hslow ↦ (run.tracker_of_slow opening.fresh hslow).1

end Overlap

/-! ## What is answered -/

/-- What an honest service has to say on a lookup, if it says anything, is what it holds. -/
theorem Service.Honest.value_of_lookedUp {s : Service} {ns : Namespace} (honest : s.Honest ns)
    {config : Config} {user : UserId} {name : String} {value : Option String}
    (h : s.lookedUp config ns user name = .ok value) : value = s.value ns user name := by
  have hqueried {value : Option String} (h : s.queried ns user name = .ok value) :
      value = s.value ns user name := by
    unfold queried at h
    rw [honest.named] at h
    split at h
    · cases h
    · cases h
      rfl
  unfold lookedUp at h
  dsimp only at h
  split at h
  · next hfast =>
    split at hfast
    · unfold fastRead at hfast
      cases h
      split at hfast
      · cases hfast
      · split at hfast
        · cases hfast
        · split at hfast
          · cases hfast
          · cases hfast
            rfl
    · cases hfast
  · split at h
    · exact hqueried h
    · cases h

namespace Session.Sound

variable {history : List Service} {s : Session}

/-- In a sound session, a lookup that is answered tells what the service holds. -/
theorem value_of_answer (h : s.Sound history) (hbumps : bumps s.cache.ns history < 2 ^ 32)
    {name : String} {user : UserId} {reading : Reading}
    (hanswer : (s.cache.perform s.service (.lookup name user)).answer = .ok reading) :
    reading.value = s.service.value s.cache.ns user name := by
  cases hknown : s.cache.known? (Provider.view s.service) (.lookup name user) with
  | some answer =>
    have hsame := (Cache.answer_of_known hknown).symm.trans hanswer
    have hsaid := (h.known_lookup hbumps hknown).2
    rw [hsame] at hsaid
    exact Except.ok.inj hsaid
  | none =>
    have hsaid := Cache.said_perform h.honest.slotted h.own (.lookup name user) hknown
    rw [hanswer] at hsaid
    exact h.honest.value_of_lookedUp hsaid.symm

/-- A session stays sound as the service ticks and keeps to its word. -/
theorem of_service (h : s.Sound history) {t : Service} (honest : t.Honest s.cache.ns)
    (hown : t.ownUser = s.service.ownUser) (hticks : Service.Ticks s.cache.ns s.service t) :
    Sound (history ++ [t]) ⟨s.cache, t⟩ where
  reporting := h.reporting
  own := h.own.trans hown.symm
  honest := honest
  ticking := h.ticking.concat fun last hlast ↦ by
    rw [h.last, Option.some.injEq] at hlast
    exact hlast ▸ hticks
  last := List.getLast?_concat ..
  kept := h.kept.append _
  slow := h.slow

/-- A session stays sound as the cache gives up its tracker and its values. -/
theorem cleared (h : s.Sound history) : Sound history ⟨s.cache.clear.cache, s.service⟩ where
  reporting := nofun
  own := h.own
  honest := h.honest
  ticking := h.ticking
  last := h.last
  kept := .empty
  slow _ := rfl

end Session.Sound

/-! ## What a client goes on to -/

namespace Client

/-- An event that keeps the service to its word about a namespace and does not set the counter of
the namespace. -/
def Event.Fair (ns : Namespace) : Event → Prop
  | .act _ | .clear _ | .clearAll => True
  | .change step => step.Fair ns

namespace Session

/-- The states of the service, from the first to the last. -/
def history (s : Session) : List Event → List Service
  | [] => [s.service]
  | event :: rest => s.service :: (s.next event).history rest

variable {s : Session} {ns : Namespace} {past : List Service}

/-- A session as far as one cache is concerned. -/
def of (s : Session) (ns : Namespace) : SettingsCache.Session := ⟨s.client.cache ns, s.service⟩

/-- A fair event leaves the cache of a namespace sound. -/
theorem sound_next (hns : (s.client.cache ns).ns = ns) (h : (s.of ns).Sound past) {event : Event}
    (fair : event.Fair ns) :
    ((s.next event).of ns).Sound (past ++ [(s.next event).service]) ∧
      ((s.next event).client.cache ns).identity = (s.client.cache ns).identity := by
  -- What another cache does with the service, and what is done from outside, leaves this cache.
  have elsewhere {other : Namespace} {c : Cache} {t : Service} (hne : ns ≠ other)
      (hsetup : t.setup = s.service.setup) (hticks : Service.Ticks ns s.service t) :
      (of ⟨s.client.setCache other c, t⟩ ns).Sound (past ++ [t]) ∧
        ((s.client.setCache other c).cache ns).identity = (s.client.cache ns).identity := by
    unfold of
    dsimp only
    rw [cache_setCache_of_ne _ _ hne]
    exact ⟨h.of_service (h.honest.congr hsetup) (Service.ownUser_of_setup hsetup)
      (hns.symm ▸ hticks), rfl⟩
  cases event with
  | act action =>
    by_cases heq : ns = action.ns
    · subst heq
      have hself : (s.next (.act action)).client.cache action.ns =
        ((s.client.cache action.ns).perform s.service action.operation).state :=
        cache_setCache_self ..
      have fair : (SettingsCache.Event.operate action.operation).Fair (s.of action.ns).cache.ns :=
        trivial
      obtain ⟨hidentity, -⟩ := SettingsCache.Session.identity_next h.reporting
        (.operate action.operation)
      have hnext := h.next fair
      unfold of
      rw [hself]
      exact ⟨hnext, hidentity⟩
    · exact elsewhere heq (Service.setup_perform ..)
        (Service.ticks_perform h.honest.slotted ns _ _)
  | clear other =>
    by_cases heq : ns = other
    · subst heq
      have hself : (s.next (.clear ns)).client.cache ns = (s.client.cache ns).clear.cache :=
        cache_setCache_self ..
      have fair : SettingsCache.Event.clear.Fair (s.of ns).cache.ns := trivial
      have hnext := h.next fair
      unfold of
      rw [hself]
      exact ⟨hnext, rfl⟩
    · exact elsewhere heq (Service.setup_accessAll ..) (Service.ticks_accessAll ..)
  | clearAll =>
    have hself : (s.next .clearAll).client.cache ns = (s.client.cache ns).clear.cache :=
      cache_clear ..
    have hsetup := Service.setup_accessAll s.service s.client.clear.2
    have hnext := (h.of_service (h.honest.congr hsetup) (Service.ownUser_of_setup hsetup)
      (Service.ticks_accessAll ..)).cleared
    unfold of
    rw [hself]
    exact ⟨hnext, rfl⟩
  | change step =>
    have fair : step.Fair (s.client.cache ns).ns := hns.symm ▸ fair
    exact ⟨h.of_service (h.honest.run fair) (Service.ownUser_run s.service step)
      (Service.ticks_run h.honest.slotted fair.orderly), rfl⟩

/-- Fair events leave the cache of a namespace sound. -/
theorem sound_play (past : List Service) (hns : (s.client.cache ns).ns = ns) {events : List Event}
    (h : (s.of ns).Sound (past ++ [s.service])) (fair : ∀ event ∈ events, event.Fair ns) :
    ((s.play events).of ns).Sound (past ++ s.history events) ∧
      ((s.play events).client.cache ns).identity = (s.client.cache ns).identity := by
  induction events generalizing s past with
  | nil => exact ⟨h, rfl⟩
  | cons event rest ih =>
    obtain ⟨hnext, hidentity⟩ := sound_next hns h (fair event (List.mem_cons_self ..))
    have hns' := (Cache.ns_of_identity hidentity).trans hns
    obtain ⟨hsound, hidentity'⟩ := ih (past ++ [s.service]) hns' hnext
      fun later hlater ↦ fair later (List.mem_cons_of_mem _ hlater)
    rw [List.append_assoc] at hsound
    exact ⟨hsound, hidentity'.trans hidentity⟩

end Session

end Client

end SettingsCache
