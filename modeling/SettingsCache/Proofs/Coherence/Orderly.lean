import SettingsCache.Proofs.Overlap.Ending
import SettingsCache.Proofs.Service.Answers
import SettingsCache.Proofs.Service.History

/-!
# Runs over an orderly service

A cache begins with nothing over a service that has trackers handed the namespace's own slot, and
nothing sets the counter of the namespace. Then every tracker follows the counter, and the counter
has not moved between two moments at which it stands at the same place. The answers of the service
need not be true.
-/

namespace SettingsCache

open Service (bumps)

namespace Service

theorem value_congr {s t : Service} {ns : Namespace} (h : s.tables.get ns = t.tables.get ns)
    (user : UserId) (name : String) : s.value ns user name = t.value ns user name := by
  unfold value entry? table
  rw [h]

/-- A handle shows the counter of a namespace in its slot. -/
theorem generation_of_view {s : Service} {handle : Handle} {ns : Namespace} {g : Generation}
    (h : s.block.view handle ns.slot = .ok g) : s.generation ns = g := by
  unfold Faulty.view at h
  split at h
  · exact nomatch h
  · split at h
    · exact nomatch h
    · unfold Slots.read at h
      split at h
      · next hslot =>
        cases h
        unfold generation Faulty.peek
        rw [Array.getD_eq_getD_getElem?, hslot, Option.getD_some]
      · exact nomatch h

end Service

/-- The user that a read asks for is the one that it is for. -/
theorem Fetch.For.requestUser {c : Cache} {user : UserId} {fetch : Fetch} (h : fetch.For c user)
    {s : Service} (hown : c.owner = s.ownUser) : s.requestUser fetch.user = user := by
  rw [h.user_eq]
  unfold Scope.resolve
  split
  · next heq => exact (heq.trans hown).symm
  · rfl

/-- A hand-over that completes a read is of the namespace's own counter, at the generation that was
noted for the call or else as the counter stands when the service answers. -/
theorem Outstanding.Fits.handed {c : Cache} {kind : Kind} {verb : Verb} {operation : Operation kind}
    {since : Nat} {call : Call verb} {pending : Pending verb kind} {noted : Option Generation}
    {before : Option verb.Outcome} {k : Completion} {s : Service}
    (h : Fits c ⟨operation, since, call, pending, noted, before⟩) (assigns : s.Assigns c.ns)
    (hk : pending.completion? (Provider.answer s c.ns call noted).1 = some k)
    {t : Tracker} (ht : k.tracker? = some t) :
    t.slot = c.ns.slot ∧ t.accepted = noted.getD (s.generation c.ns) := by
  obtain ⟨handOver, hhandOver, hof⟩ := Option.bind_eq_some_iff.mp ht
  generalize houtcome : (Provider.answer s c.ns call noted).1 = outcome at hk
  cases Pending.completes hk with
  | get =>
    cases h with
    | get => exact ((Service.get_reply noted houtcome).2 handOver hhandOver).tracker assigns hof
  | query => cases hhandOver
  | list =>
    cases h with
    | list => exact ((Service.list_reply noted houtcome).2 handOver hhandOver).tracker assigns hof

namespace Overlap

/-- A cache of the service's own user that has kept nothing yet, over a service that has trackers
handed the slot of the cache's namespace. -/
structure Placed (start : Overlap Service) : Prop where
  fresh : start.Fresh
  own : start.cache.owner = start.provider.ownUser
  assigns : start.provider.Assigns start.cache.ns

/-- The changes of the service that do not set the counter of a cache's namespace and have trackers
handed its slot. -/
abbrev Orderly (start : Overlap Service) : Service → Service → Prop :=
  Service.Moves (Scenario.ServiceStep.Orderly start.cache.ns)

section Providers

variable {σ : Type} {log : List (Moment σ)}

theorem providers_snoc (log : List (Moment σ)) (s s' : Overlap σ) (deed : Deed) :
    providers (log ++ [⟨s, deed⟩]) s' = providers log s ++ [s'.provider] := by
  unfold providers
  rw [List.map_append, List.map_singleton]

theorem getLast?_providers (log : List (Moment σ)) (s : Overlap σ) :
    (providers log s).getLast? = some s.provider := List.getLast?_concat ..

theorem getElem?_providers {n : Nat} {m : Moment σ} (hm : log[n]? = some m) (s : Overlap σ) :
    (providers log s)[n]? = some m.before.provider := by
  unfold providers
  apply getElem?_append_of_some
  rw [List.getElem?_map, hm, Option.map_some]

/-- What led up to a moment has been in these states. -/
theorem providers_take {n : Nat} {m : Moment σ} (hm : log[n]? = some m) (s : Overlap σ) :
    providers (log.take n) m.before = (providers log s).take (n + 1) := by
  obtain ⟨hlt, -⟩ := List.getElem?_eq_some_iff.mp hm
  unfold providers
  rw [List.take_append_of_le_length (by rw [List.length_map]; exact hlt), ← List.map_take,
    List.take_add_one, hm, List.map_append, List.map_take]
  rfl

end Providers

variable {ns : Namespace} {now : Nat} {deed : Deed} {start s s' : Overlap Service}
  {log : List (Moment Service)}

/-- A step keeps the slots in their place, and it ticks. -/
theorem Step.assigns (step : Step (Service.Moves (Scenario.ServiceStep.Orderly ns)) now s deed s')
    (assigns : s.provider.Assigns ns) :
    s'.provider.Assigns ns ∧ s'.provider.ownUser = s.provider.ownUser ∧
      Service.Ticks ns s.provider s'.provider := by
  cases step with
  | begin | resume | clear => exact assigns.accessAll _
  | note hout hnote => exact assigns.note hnote
  | @answer _ _ _ _ call _ noted => exact assigns.answer s.cache.ns call noted
  | move hmove => exact assigns.moves hmove

theorem Run.assigns (run : Run start.Orderly start log s) (placed : start.Placed) :
    s.provider.Assigns start.cache.ns ∧ s.provider.ownUser = start.provider.ownUser := by
  induction run with
  | nil => exact ⟨placed.assigns, rfl⟩
  | snoc run step ih =>
    obtain ⟨assigns, huser⟩ := ih
    obtain ⟨assigns', huser', -⟩ := step.assigns assigns
    exact ⟨assigns', huser'.trans huser⟩

/-- The states of the service make up a history that ticks. -/
theorem Run.counted (run : Run start.Orderly start log s) (placed : start.Placed) :
    Service.Ticking start.cache.ns (providers log s) := by
  induction run with
  | nil =>
    intro n t u ht hu
    exact absurd hu.symm (by simp [providers])
  | @snoc log s s' deed run step ih =>
    rw [providers_snoc]
    apply ih.concat
    intro t ht
    rw [getLast?_providers, Option.some.injEq] at ht
    rw [← ht]
    exact (step.assigns (run.assigns placed).1).2.2

/-- A moment of a log at which the counter of a namespace stands at a generation. -/
def Counted (ns : Namespace) (log : List (Moment Service)) (n : Nat) (g : Generation) : Prop :=
  ∃ m, log[n]? = some m ∧ m.before.provider.generation ns = g

/-- A call is answered at a generation at which the counter stood on the way: when the generation
was noted, or else as the call is answered. -/
theorem Run.counted_of_noted (run : Run start.Orderly start log s) (placed : start.Placed)
    {n since : Nat} {m : Moment Service} (hsince : since ≤ n) (hm : log[n]? = some m) {verb : Verb}
    {call : Call verb} {noted : Option Generation} (hnoted : NotedBetween log since n call noted) :
    ∃ i, since ≤ i ∧ i ≤ n ∧ Counted start.cache.ns log i
      (noted.getD (m.before.provider.generation start.cache.ns)) := by
  cases noted with
  | none => exact ⟨n, hsince, Nat.le_refl n, m, hm, rfl⟩
  | some generation =>
    obtain ⟨i, counted, hi, hin, hcounted, -, provider, hnote⟩ := hnoted generation rfl
    obtain ⟨run', -⟩ := run.at hcounted
    rw [run'.ns placed.fresh] at hnote
    exact ⟨i, hi, Nat.le_of_lt hin, counted, hcounted, (Service.note?_eq hnote).2.symm⟩

/-- An answered call came to what the service answered, after the operation began. A hand-over that
completes the read is of the namespace's counter as it stood at a moment in between. -/
theorem Run.served (run : Run start.Orderly start log s) (placed : start.Placed) {kind : Kind}
    {verb : Verb} {operation : Operation kind} {since : Nat} {call : Call verb}
    {pending : Pending verb kind} {noted : Option Generation} {outcome : verb.Outcome}
    (hout : ⟨operation, since, call, pending, noted, some outcome⟩ ∈ s.outstanding) :
    ∃ n m, since ≤ n ∧ log[n]? = some m ∧ m.deed = .answered call outcome ∧
      (Provider.answer m.before.provider start.cache.ns call noted).1 = outcome ∧
      s.cache.owner = m.before.provider.ownUser ∧
      ∃ i g, since ≤ i ∧ i ≤ n ∧ Counted start.cache.ns log i g ∧
        ∀ k, pending.completion? outcome = some k → ∀ t, k.tracker? = some t →
          t.slot = start.cache.ns.slot ∧ t.accepted = g := by
  have hsound := run.sound placed.fresh _ hout
  obtain ⟨n, m, hsince, hm, hnoted, hdeed, hanswer⟩ := hsound.answered outcome rfl
  obtain ⟨run', -⟩ := run.at hm
  obtain ⟨assigns, huser⟩ := run'.assigns placed
  obtain ⟨i, hi, hin, hcounted⟩ := run.counted_of_noted placed hsince hm hnoted
  have hns := run.ns placed.fresh
  change (Provider.answer m.before.provider m.before.cache.ns call noted).1 = outcome at hanswer
  rw [run'.ns placed.fresh] at hanswer
  refine ⟨n, m, hsince, hm, hdeed, hanswer, ?_, i, _, hi, hin, hcounted, fun k hk t ht ↦ ?_⟩
  · rw [run.owner placed.fresh, placed.own, huser]
  · rw [← hns] at hanswer assigns ⊢
    rw [← hanswer] at hk
    exact hsound.fits.handed assigns hk ht

/-- Every tracker follows the counter of the namespace. -/
theorem Run.tracks (run : Run start.Orderly start log s) (placed : start.Placed) {t : Tracker}
    (ht : s.cache.store.tracker = some t) : t.slot = start.cache.ns.slot := by
  induction run generalizing t with
  | nil =>
    rw [placed.fresh.store] at ht
    cases ht
  | @snoc log s s' deed run step ih =>
    have heffect := step.effect (run.reporting placed.fresh)
    generalize s'.cache.store = after at heffect ht
    cases heffect with
    | began h =>
      obtain ⟨t', ht', hslot, -⟩ := h.checked.tracker_eq ht
      rw [hslot]
      exact ih ht'
    | completed hout hk h =>
      rcases h.tracker_eq ht with hold | hnew
      · exact ih hold
      · obtain ⟨n, m, -, -, -, -, -, i, g, -, -, -, htracker⟩ := run.served placed hout
        exact (htracker _ hk t hnew).1
    | quiet | noted | answered | moved => exact ih ht
    | cleared => cases ht

variable {n : Nat} {m : Moment Service} {g : Generation}

/-- What a check finds is where the counter of the namespace stands. -/
theorem Run.counter_of_confirms (run : Run start.Orderly start log s) (placed : start.Placed)
    (hm : log[n]? = some m) (h : m.Confirms g) :
    m.before.provider.generation start.cache.ns = g := by
  obtain ⟨t, ht, -, hview⟩ := h
  obtain ⟨run', -⟩ := run.at hm
  rw [run'.tracks placed ht] at hview
  exact Service.generation_of_view hview

/-- Between two moments of a run at which the counter stands at the same place, it stands there all
the time, and the service holds the same. -/
theorem Run.steady (run : Run start.Orderly start log s) (placed : start.Placed)
    (hbumps : bumps start.cache.ns (providers log s) < 2 ^ 32) {i j : Nat}
    {first between : Moment Service} (hij : i ≤ j) (hjn : j ≤ n) (hi : log[i]? = some first)
    (hj : log[j]? = some between) (hm : log[n]? = some m)
    (heq : first.before.provider.generation start.cache.ns =
      m.before.provider.generation start.cache.ns) :
    between.before.provider.generation start.cache.ns =
        m.before.provider.generation start.cache.ns ∧
      between.before.provider.tables.get start.cache.ns =
        m.before.provider.tables.get start.cache.ns := by
  obtain ⟨run', -⟩ := run.at hm
  have hticking := run'.counted placed
  have hlast := getLast?_providers (log.take n) m.before
  rw [providers_take hm s] at hticking hlast
  have hlt := Nat.lt_of_le_of_lt (Service.bumps_take_le _ _ (n + 1)) hbumps
  refine hticking.steady hlt hij ?_ ?_ hlast heq
  · rw [List.getElem?_take_of_lt (by omega)]
    exact getElem?_providers hi s
  · rw [List.getElem?_take_of_lt (by omega)]
    exact getElem?_providers hj s

end Overlap

end SettingsCache
