import SettingsCache.Proofs.Coherence.Reads
import SettingsCache.Proofs.Provenance

/-!
# The generation that is told with a value

A lookup for the owner that ends with a call is told a generation just if its answer is stored. The
cache compares the generation that the tracker has accepted, not the counter itself: a write that no
check has come upon yet does not show. Nor does a write that lands after the service has looked at
the counter for a hand-over and before it looks at the value. So the value may be newer than the
generation that it is told to go with, and `Run.told_truthful` says how far it can be trusted: it
was held at some moment since the counter stood there, it is held when the read ends if the counter
stands there still, and otherwise it is not served any more. A write and its bump are one step.
-/

namespace SettingsCache

open Service (bumps)

namespace Cache

/-- A lookup that is answered is told the generation that its completion tells. -/
theorem completed_completeLookup (c : Cache) (fetch : Fetch) (name : String)
    (value : Option String) (source : Source) (handOver : Option HandOver) :
    ∃ told, (c.completeLookup fetch name value source handOver).result =
        .done (.ok ⟨value, source, told⟩) ∧
      Completed ⟨fetch, handOver, .value name value⟩ c.store
        (c.completeLookup fetch name value source handOver).cache.store
        (c.completeLookup fetch name value source handOver).accesses told := by
  refine ⟨_, rfl, ?_⟩
  dsimp only [completeLookup, Turn.bind]
  rw [List.append_nil]
  exact complete_completed c fetch handOver (.value name value)

/-- A lookup that goes on to an answer completes its read. -/
theorem completed_of_lookup {c : Cache} {verb : Verb} {pending : Pending verb .lookup}
    {outcome : verb.Outcome} {reading : Reading}
    (hr : (c.resume pending outcome).result = .done (.ok reading)) :
    ∃ k, pending.completion? outcome = some k ∧
      Completed k c.store (c.resume pending outcome).cache.store
        (c.resume pending outcome).accesses reading.generation := by
  have hrefused {name : String} {fetch : Fetch} {e : RemoteError} {out : Cache}
      (h : (out.fallBack fetch name e).result = .done (.ok reading)) : False := by
    rcases result_fallBack out fetch name e with h' | h' <;> simp [h'] at h
  cases pending with
  | get name fetch =>
    rcases outcome with e | _ | reply
    · exact (hrefused hr).elim
    · exact (hrefused hr).elim
    · obtain ⟨told, hresult, h⟩ :=
        c.completed_completeLookup fetch name reply.value .fastPath reply.handOver
      cases hresult.symm.trans hr
      exact ⟨_, rfl, h⟩
  | query name fetch =>
    rcases outcome with e | row
    · exact absurd hr (by simp [resume])
    · obtain ⟨told, hresult, h⟩ := c.completed_completeLookup fetch name
        ((row.filter fun row ↦ row.name == name).bind Row.value) .fallback none
      cases hresult.symm.trans hr
      exact ⟨_, rfl, h⟩

end Cache

namespace Overlap

section Anything

variable {σ : Type} [Provider σ] {moves : σ → σ → Prop} {start s : Overlap σ}
  {log : List (Moment σ)} {n : Nat} {m : Moment σ} {name : String} {user : UserId} {since : Nat}
  {reading : Reading}

/-- A lookup that is not served from the store ends with a completion. -/
theorem Run.completed_of_lookup (run : Run moves start log s) (fresh : start.Fresh)
    (hm : log[n]? = some m) (h : m.deed.Ends n (.lookup name user) since (.ok reading))
    (hsource : reading.source ≠ .cache) :
    ∃ (verb : Verb) (call : Call verb) (pending : Pending verb .lookup) (outcome : verb.Outcome)
      (noted : Option Generation) (turn : Turn (Progress .lookup)) (k : Completion),
      m.deed = .resumed (.lookup name user) since pending outcome turn ∧
      ⟨.lookup name user, since, call, pending, noted, some outcome⟩ ∈ m.before.outstanding ∧
      pending.completion? outcome = some k ∧ k.fetch.For m.before.cache user ∧
      k.finding = .value name reading.value ∧
      Completed k m.before.cache.store turn.cache.store turn.accesses reading.generation := by
  obtain ⟨run', s', step⟩ := run.at hm
  obtain ⟨before, deed⟩ := m
  dsimp only at run' step
  cases h with
  | atOnce hresult =>
    cases step with
    | begin operation hturn =>
      obtain ⟨fetch, hstart⟩ := Cache.starts hturn (run'.reporting fresh)
      have hopened := hstart.opened
      rw [hresult] at hopened
      cases hopened with
      | hit => exact absurd rfl hsource
  | afterCall hresult =>
    cases step with
    | resume hout hturn =>
      have hmem := mem_of_eq_append_cons hout
      subst hturn
      obtain ⟨k, hk, hf, hfinding, -⟩ := (run'.sound fresh _ hmem).fits.finding_of_lookup hresult
      obtain ⟨k', hk', hcompleted⟩ := Cache.completed_of_lookup hresult
      cases hk.symm.trans hk'
      exact ⟨_, _, _, _, _, _, k, rfl, hmem, hk, hf, hfinding, hcompleted⟩

/-- The answer to a lookup is stored just if a generation is told with it, unless it comes from the
store. -/
theorem Run.stored_of_lookup (run : Run moves start log s) (fresh : start.Fresh)
    (hm : log[n]? = some m) (h : m.deed.Ends n (.lookup name user) since (.ok reading))
    (hsource : reading.source ≠ .cache) :
    m.deed.stored? name = reading.generation.map fun _ ↦ reading.value := by
  obtain ⟨verb, call, pending, outcome, noted, turn, k, hdeed, -, hk, -, hfinding, hcompleted⟩ :=
    run.completed_of_lookup fresh hm h hsource
  rw [hdeed, hcompleted.stored?_eq hk, Completion.stored?, hfinding]
  cases reading.generation <;> simp [Finding.of?]

end Anything

variable {start s : Overlap Service} {log : List (Moment Service)} {n : Nat} {m : Moment Service}
  {name : String} {user : UserId} {since : Nat} {reading : Reading} {g : Generation}

/-- In a read that began at one moment of a log and ends at another, the counter stood at a
generation at a moment `i`, and the service held a value at a moment `j`. -/
structure HeldSince (ns : Namespace) (user : UserId) (log : List (Moment Service)) (since n : Nat)
    (name : String) (value : Option String) (g : Generation) (i j : Nat) : Prop where
  begun : since ≤ i
  later : i ≤ j
  ended : j ≤ n
  counted : Counted ns log i g
  held : ∃ m, log[j]? = some m ∧ m.before.provider.value ns user name = value

/-- How far a value can be trusted that ends a read with a generation. -/
structure Trusted (ns : Namespace) (user : UserId) (log : List (Moment Service)) (since n : Nat)
    (m : Moment Service) (name : String) (value : Option String) (g : Generation) : Prop where
  /-- The value was held since the counter stood at the generation, where it stood as the read began
  unless a tracker is adopted with the value. -/
  held : ∃ i j, HeldSince ns user log since n name value g i j ∧
    (m.deed.adopted? = none → i = since)
  /-- If the counter stands there still, the service holds the value. -/
  current : m.before.provider.generation ns = g → m.before.provider.value ns user name = value
  /-- Otherwise no lookup is served at the generation from then on. -/
  unserved : m.before.provider.generation ns ≠ g → ∀ later last asked reader begun found,
    n ≤ later → log[later]? = some last →
    last.deed.Ends later (.lookup asked reader) begun (.ok found) → found.source = .cache →
    found.generation ≠ some g

/-- A value that ends a lookup with a generation was held since the counter stood there. -/
theorem Run.held_of_told (run : Run start.Fair start log s) (opening : start.Opening)
    (hbumps : bumps start.cache.ns (providers log s) < 2 ^ 32) (hm : log[n]? = some m)
    (h : m.deed.Ends n (.lookup name user) since (.ok reading))
    (hg : reading.generation = some g) :
    user = start.cache.owner ∧
      ∃ i j, HeldSince start.cache.ns user log since n name reading.value g i j ∧
        (m.deed.adopted? = none → i = since) := by
  obtain ⟨run', -⟩ := run.at hm
  have howner := run'.owner opening.fresh
  by_cases hsource : reading.source = .cache
  · obtain ⟨value, g', rfl, rfl, rfl, hcurrent, hv⟩ | ⟨hnot, -⟩ :=
      run.lookup_ended opening.fresh hm h
    · cases hg
      have hcounted := run.generation_of_confirms opening hm hcurrent.confirms
      have hvalue := run.value_of_current opening hbumps hm hcurrent hv
      rw [howner]
      exact ⟨rfl, since, since, ⟨Nat.le_refl _, Nat.le_refl _, Nat.le_refl _, ⟨m, hm, hcounted⟩,
        ⟨m, hm, hvalue⟩⟩, fun _ ↦ rfl⟩
    · exact absurd hsource hnot
  · obtain ⟨verb, call, pending, outcome, noted, turn, k, hdeed, hout, hk, hf, hfinding,
      hcompleted⟩ := run.completed_of_lookup opening.fresh hm h hsource
    rw [hg] at hcompleted
    obtain ⟨hc, hknown⟩ := hcompleted.told_eq
    have hcaches := hf.caching_eq.symm.trans hc
    have huser : user = start.cache.owner := (Cache.eq_owner_of_caches hcaches).trans howner
    obtain ⟨j, answered, hsince, hj, htrue, i, counted, hi, hij, ⟨handing, hhanding, hcounted⟩,
      htracker⟩ := run'.found opening hout hk hf
    obtain ⟨hjn, hj⟩ := getElem?_of_take hj
    obtain ⟨-, hhanding⟩ := getElem?_of_take hhanding
    rw [hfinding] at htrue
    have hadopted : m.deed.adopted? = k.tracker? := by
      rw [hdeed, Deed.adopted?, Deed.completion?_resumed hk, if_pos hc, Option.bind_some]
    refine ⟨huser, ?_⟩
    rcases hknown with ⟨t, ht, haccepted⟩ | ⟨ht, hobserved⟩
    · -- The generation was handed over with the value.
      have hstood := hcounted.trans ((htracker t ht).2.symm.trans haccepted)
      refine ⟨i, j, ⟨hi, hij, Nat.le_of_lt hjn, ⟨handing, hhanding, hstood⟩,
        ⟨answered, hj, htrue⟩⟩, fun hnone ↦ ?_⟩
      cases ht.symm.trans (hadopted.symm.trans hnone)
    · -- The generation was found as the read began.
      have hsound := run'.sound opening.fresh _ hout
      obtain ⟨-, -, -, hfetch⟩ := hsound.fits.fetch_for hk
      obtain ⟨first, hfirst, hconfirms⟩ := hsound.recorded k.fetch g hfetch hobserved
      obtain ⟨-, hfirst⟩ := getElem?_of_take hfirst
      have hstood := run.generation_of_confirms opening hfirst hconfirms
      exact ⟨since, j, ⟨Nat.le_refl _, hsince, Nat.le_of_lt hjn, ⟨first, hfirst, hstood⟩,
        ⟨answered, hj, htrue⟩⟩, fun _ ↦ rfl⟩

/-- The generation that is told with a value can be trusted so far. An answer that is not served
from the store is stored just if a generation is told with it. -/
theorem Run.told_truthful (run : Run start.Fair start log s) (opening : start.Opening)
    (hbumps : bumps start.cache.ns (providers log s) < 2 ^ 32) (hm : log[n]? = some m)
    (h : m.deed.Ends n (.lookup name user) since (.ok reading)) :
    (reading.source ≠ .cache →
      m.deed.stored? name = reading.generation.map fun _ ↦ reading.value) ∧
    ∀ g, reading.generation = some g →
      Trusted start.cache.ns user log since n m name reading.value g := by
  refine ⟨run.stored_of_lookup opening.fresh hm h, fun g hg ↦ ?_⟩
  obtain ⟨rfl, i, j, since, hbegun⟩ := run.held_of_told opening hbumps hm h hg
  obtain ⟨counted, hi, hcounted⟩ := since.counted
  obtain ⟨answered, hj, hvalue⟩ := since.held
  refine ⟨⟨i, j, since, hbegun⟩, ?_, ?_⟩
  · intro hcurrent
    obtain ⟨-, htables⟩ := run.orderly.steady opening.placed hbumps since.later since.ended hi hj
      hm (hcounted.trans hcurrent.symm)
    rw [← Service.value_congr htables]
    exact hvalue
  · intro hmoved later last asked user begun found hlater hlast hends hsource hfound
    obtain ⟨value, g', rfl, -, -, hcurrent, -⟩ | ⟨hnot, -⟩ :=
      run.lookup_ended opening.fresh hlast hends
    · cases hfound
      have hfinal := run.generation_of_confirms opening hlast hcurrent.confirms
      have hin : i ≤ n := Nat.le_trans since.later since.ended
      obtain ⟨hstill, -⟩ := run.orderly.steady opening.placed hbumps hin hlater hi hm hlast
        (hcounted.trans hfinal.symm)
      exact hmoved (hstill.trans hfinal)
    · exact hnot hsource

/-- A write lands while the call of a lookup is out, under the tracker that an earlier lookup has
adopted. -/
def overtakenLookup : List Act :=
  [.begin (.lookup "wifi_on" .primary), .answer 0, .resume 0,
    .begin (.lookup "adb_enabled" .primary),
    .begin (.put ⟨"adb_enabled", some "9", .primary, none, false⟩), .answer 1, .answer 0, .resume 0]

/-- A write lands between the two parts of the answer to a lookup, which is handed a tracker. -/
def overtakenReply : List Act :=
  [.begin (.lookup "adb_enabled" .primary), .note 0,
    .begin (.put ⟨"adb_enabled", some "9", .primary, none, false⟩), .answer 1, .answer 0, .resume 0]

/-- A lookup of a schedule that began at one moment and ended at another has been told generation 2
with the value that was written meanwhile, which is stored, and can be trusted so far. -/
def ToldOfWrite (schedule : List Act) (since n : Nat) (m : Moment Service) : Prop :=
  (seeded.play [] schedule).1[n]? = some m ∧
    m.deed.Ends n (.lookup "adb_enabled" .primary) since (.ok ⟨some "9", .fastPath, some 2⟩) ∧
    m.deed.stored? "adb_enabled" = some (some "9") ∧
    Trusted .global .primary (seeded.play [] schedule).1 since n m "adb_enabled" (some "9") 2

/-- The first lookup goes by the tracker that there is, and the second adopts one. -/
theorem told_truthful_overtakenLookup :
    (∃ m, ToldOfWrite overtakenLookup 3 7 m ∧ m.deed.adopted? = none) ∧
      ∃ m, ToldOfWrite overtakenReply 0 5 m ∧ m.deed.adopted?.isSome := by
  have told {schedule : List Act} {since n : Nat} {m : Moment Service}
      (hbumps : bumps .global
        (providers (seeded.play [] schedule).1 (seeded.play [] schedule).2) < 2 ^ 32)
      (hm : (seeded.play [] schedule).1[n]? = some m)
      (h : m.deed.Ends n (.lookup "adb_enabled" .primary) since
        (.ok ⟨some "9", .fastPath, some 2⟩)) : ToldOfWrite schedule since n m := by
    have run : Run seeded.Fair seeded _ _ := Run.nil.play schedule
    obtain ⟨hstored, htrusted⟩ := run.told_truthful opening_seeded hbumps hm h
    exact ⟨hm, h, hstored Source.noConfusion, htrusted 2 rfl⟩
  constructor
  · exact ⟨_, told (by decide) rfl (.afterCall rfl), rfl⟩
  · exact ⟨_, told (by decide) rfl (.afterCall rfl), rfl⟩

/-- The value that the lookup is told to go with generation 2 was never held while the counter stood
there, and it is stored after the counter has moved on. -/
theorem told_outdated_overtakenLookup :
    ∃ log s m, Run seeded.Fair seeded log s ∧ bumps .global (providers log s) < 2 ^ 32 ∧
      log[7]? = some m ∧
      m.deed.Ends 7 (.lookup "adb_enabled" .primary) 3 (.ok ⟨some "9", .fastPath, some 2⟩) ∧
      m.before.provider.generation .global = 3 ∧
      m.deed.stored? "adb_enabled" = some (some "9") ∧
      ∀ t ∈ providers log s, t.generation .global = 2 →
        t.value .global .primary "adb_enabled" = some "0" := by
  refine ⟨_, _, _, Run.nil.play overtakenLookup, by decide, rfl, .afterCall rfl, rfl, rfl, ?_⟩
  decide

end Overlap

end SettingsCache
