import SettingsCache.Proofs.Provenance
import SettingsCache.Proofs.Isolation.Users
import SettingsCache.Proofs.Session.Answers

/-!
# Rows under another name

A query whose row comes back under another name says that the name is unset, and this answer is
stored as any other, under the tracker that is there. So what is served from the store need not be
true, but there is no other way for it to be false: `Run.hit_true_or_misnamed` holds of every run,
whatever faults are switched on and off on the way.
-/

namespace SettingsCache

open Service (bumps)

/-- At this moment the service answers a query for a name while it gives rows another name. -/
def Moment.Misnames (m : Moment Service) (name : String) : Prop :=
  ∃ user outcome, m.deed = .answered (.query name user) outcome ∧
    m.before.provider.hasFault .misnamedQueryRows = true

/-- What the service answers of a name to a call for its own user is what it holds, unless it
misnames the row. -/
theorem Moment.true_or_misnames {m : Moment Service} {ns : Namespace} {verb : Verb}
    {call : Call verb} {noted : Option Generation} {outcome : verb.Outcome} {name : String}
    {value : Option String} (hdeed : m.deed = .answered call outcome)
    (hanswer : (Provider.answer m.before.provider ns call noted).1 = outcome) (hown : call.own)
    (hreported : call.reported? name outcome = some value) :
    m.before.provider.value ns m.before.provider.ownUser name = value ∨
      value = none ∧ m.Misnames name := by
  cases call with
  | get request =>
    have huser : request.user = none := hown
    rcases outcome with e | _ | reply
    · cases hreported
    · cases hreported
    · dsimp only [Call.reported?] at hreported
      split at hreported
      · next hname =>
        have hreply := (Service.get_reply noted hanswer).1
        rw [huser, hname] at hreply
        rw [← Option.some.inj hreported, hreply]
        exact .inl rfl
      · cases hreported
  | query asked user =>
    have huser : user = none := hown
    rcases outcome with e | row
    · cases hreported
    · dsimp only [Call.reported?] at hreported
      split at hreported
      · next hname =>
        have hqueried := m.before.provider.queried_eq ns asked user
        have hserve : (m.before.provider.serve ns (.query asked user)).1 = .ok row := by
          cases noted <;> exact hanswer
        rw [hserve] at hqueried
        dsimp only at hqueried
        rw [Option.some.inj hreported, Service.queried, huser, hname] at hqueried
        by_cases hmisnamed : m.before.provider.hasFault .misnamedQueryRows = true
        · refine .inr ⟨?_, user, _, hname ▸ hdeed, hmisnamed⟩
          split at hqueried
          · cases hqueried
          · exact (Except.ok.inj hqueried).symm
        · split at hqueried
          · cases hqueried
          · exact .inl (Except.ok.inj hqueried)
      · cases hreported
  | list request =>
    have huser : request.user = none := hown
    rcases outcome with e | reply
    · cases hreported
    · obtain ⟨text, htext, rfl⟩ := Option.map_eq_some_iff.mp hreported
      have hvalues := (Service.list_reply noted hanswer).1 name
      rw [htext, huser] at hvalues
      split at hvalues
      · exact .inl hvalues.symm
      · cases hvalues
  | put | reset => cases hreported

namespace Overlap

variable {start s : Overlap Service} {log : List (Moment Service)} {n : Nat} {m : Moment Service}
  {name : String} {user : UserId} {since : Nat} {reading : Reading}

/-- What a read stores at a generation was answered since the counter stood there. It was what the
service held, unless the service misnamed the row. -/
theorem Run.true_or_misnamed_of_origin (run : Run start.Orderly start log s)
    (placed : start.Placed) {p : Nat} {value : Option String} {g : Generation}
    (origin : Origin start.cache.owner log p name value g) :
    ∃ i t counted answer, i ≤ t ∧ t < p ∧ log[i]? = some counted ∧ log[t]? = some answer ∧
      counted.before.provider.generation start.cache.ns = g ∧
      (answer.before.provider.value start.cache.ns start.cache.owner name = value ∨
        value = none ∧ answer.Misnames name) := by
  cases origin with
  | @intro _ verb operation since t call pending noted outcome turn first answer kept _ _ hkept
      hdeed hreader hfirst hbegan hfits hsince hbefore hanswer hnoted hanswered hreported hstored
      hgeneration =>
    obtain ⟨runKept, -⟩ := run.at hkept
    obtain ⟨runAnswer, -⟩ := run.at hanswer
    obtain ⟨assigns, huser⟩ := runAnswer.assigns placed
    obtain ⟨hanswered, hserve⟩ := hanswered
    rw [runAnswer.ns placed.fresh] at hserve
    have hown : call.own := by
      apply hfits.own
      rw [runKept.owner placed.fresh]
      exact hreader
    have htrue := Moment.true_or_misnames hanswered hserve hown hreported
    rw [huser, ← placed.own] at htrue
    rcases hgeneration with hadopted | ⟨-, hconfirms⟩
    · obtain ⟨tracker, hadopted, hg⟩ := Option.map_eq_some_iff.mp hadopted
      rw [hdeed] at hadopted
      obtain ⟨k, hcompletion, htracker⟩ := Option.bind_eq_some_iff.mp hadopted
      obtain ⟨hk, -⟩ := Option.filter_eq_some_iff.mp hcompletion
      obtain ⟨i, -, hit, counted, hi, hcounted⟩ :=
        run.counted_of_noted placed hsince hanswer hnoted
      refine ⟨i, t, counted, answer, hit, hbefore, hi, hanswer, ?_, htrue⟩
      rw [hcounted]
      rw [← runKept.ns placed.fresh] at hserve assigns ⊢
      rw [← hserve] at hk
      exact (hfits.handed assigns hk htracker).2.symm.trans hg
    · exact ⟨since, t, first, answer, hsince, hbefore, hfirst, hanswer,
        run.counter_of_confirms placed hfirst hconfirms, htrue⟩

/-- A lookup that is served from the store answers what the service holds, or it answers that the
name is unset. In that case the service has answered a query for the name while it misnamed rows,
with the counter where it still stands, and the answer was stored. -/
theorem Run.hit_true_or_misnamed (run : Run start.Orderly start log s) (placed : start.Placed)
    (hbumps : bumps start.cache.ns (providers log s) < 2 ^ 32) (hm : log[n]? = some m)
    (h : m.deed.Ends n (.lookup name user) since (.ok reading))
    (hsource : reading.source = .cache) :
    m.before.provider.value start.cache.ns user name = reading.value ∨
      reading.value = none ∧ ∃ t p answer kept, t < p ∧ p < n ∧ log[t]? = some answer ∧
        answer.Misnames name ∧ answer.before.provider.generation start.cache.ns =
          m.before.provider.generation start.cache.ns ∧
        log[p]? = some kept ∧ kept.deed.stored? name = some none := by
  obtain ⟨value, g, rfl, rfl, rfl, hcurrent, hv⟩ | ⟨hnot, -⟩ := run.lookup_ended placed.fresh hm h
  · obtain ⟨run', -⟩ := run.at hm
    obtain ⟨g', hg', p, hp, origin, -⟩ := run'.provenance placed.fresh hv
    obtain rfl := Option.some.inj (hg'.symm.trans hcurrent.generation)
    obtain ⟨i, t, counted, answer, hit, htp, hi, ht, hcounted, hvalue⟩ :=
      run'.true_or_misnamed_of_origin placed origin
    obtain ⟨hin, hi⟩ := getElem?_of_take hi
    obtain ⟨htn, ht⟩ := getElem?_of_take ht
    have hnow := run.counter_of_confirms placed hm hcurrent.confirms
    obtain ⟨hstill, htables⟩ := run.steady placed hbumps hit (Nat.le_of_lt htn) hi ht hm
      (hcounted.trans hnow.symm)
    rw [run'.owner placed.fresh]
    rcases hvalue with htrue | ⟨hunset, hmisnames⟩
    · rw [← Service.value_congr htables]
      exact .inl htrue
    · obtain ⟨hkept, -, -, -, -, -, -, -, -, -, -, -, hstored, -⟩ := origin
      obtain ⟨hpn, hkept⟩ := getElem?_of_take hkept
      rw [hunset] at hstored
      exact .inr ⟨hunset, t, p, answer, _, htp, hpn, ht, hmisnames, hstill, hkept, hstored⟩
  · exact absurd hsource hnot

theorem placed_seeded : seeded.Placed := ⟨fresh_seeded, rfl, rfl, nofun⟩

/-- The service begins or ceases to fail fast reads and to misname rows. -/
def turned (s : Overlap Service) (log : List (Moment Service)) (on : Bool) :
    List (Moment Service) × Overlap Service :=
  let failing := { s with provider := s.provider.setFault .failGet on }
  (log ++ [⟨s, .moved⟩] ++ [⟨failing, .moved⟩],
    { failing with provider := failing.provider.setFault .misnamedQueryRows on })

theorem Run.turned (run : Run start.Orderly start log s) (on : Bool) :
    Run start.Orderly start (s.turned log on).1 (s.turned log on).2 :=
  (run.snoc (.move _ (.step (.setFault .failGet on) trivial))).snoc
    (.move _ (.step (.setFault .misnamedQueryRows on) trivial))

/-- A lookup gets a tracker. Then another name is looked up while the service misnames rows, and
once more when it has ceased to. -/
def misnamedRow : List (Moment Service) × Overlap Service :=
  let tracked := seeded.play [] [.begin (.lookup "wifi_on" .primary), .answer 0, .resume 0]
  let faulty := tracked.2.turned tracked.1 true
  let misled := faulty.2.play faulty.1
    [.begin (.lookup "adb_enabled" .primary), .answer 0, .resume 0, .answer 0, .resume 0]
  let mended := misled.2.turned misled.1 false
  mended.2.play mended.1 [.begin (.lookup "adb_enabled" .primary)]

theorem run_misnamedRow : Run seeded.Orderly seeded misnamedRow.1 misnamedRow.2 :=
  ((((Run.nil.play _).turned true).play _).turned false).play _

theorem hit_true_or_misnamed_misnamedRow :
    ∃ m, misnamedRow.1[12]? = some m ∧
      m.deed.Ends 12 (.lookup "adb_enabled" .primary) 12 (.ok ⟨none, .cache, some 2⟩) ∧
      ∃ t p answer kept, t < p ∧ p < 12 ∧ misnamedRow.1[t]? = some answer ∧
        answer.Misnames "adb_enabled" ∧ answer.before.provider.generation .global =
          m.before.provider.generation .global ∧
        misnamedRow.1[p]? = some kept ∧ kept.deed.stored? "adb_enabled" = some none := by
  have hbumps : bumps .global (providers misnamedRow.1 misnamedRow.2) < 2 ^ 32 := by decide
  have hhit : ∃ m, misnamedRow.1[12]? = some m ∧
      m.deed.Ends 12 (.lookup "adb_enabled" .primary) 12 (.ok ⟨none, .cache, some 2⟩) ∧
      m.before.provider.value .global .primary "adb_enabled" = some "0" :=
    ⟨_, rfl, .atOnce rfl, rfl⟩
  obtain ⟨m, hm, h, hvalue⟩ := hhit
  refine ⟨m, hm, h, ?_⟩
  rcases run_misnamedRow.hit_true_or_misnamed placed_seeded hbumps hm h rfl with htrue | ⟨-, hkept⟩
  · cases hvalue.symm.trans htrue
  · exact hkept

/-- The lookup is told from the store that the name is unset, while the service holds a value and
answers properly. -/
theorem hit_false_misnamedRow :
    ∃ m, Run seeded.Orderly seeded misnamedRow.1 misnamedRow.2 ∧ seeded.Placed ∧
      bumps .global (providers misnamedRow.1 misnamedRow.2) < 2 ^ 32 ∧
      misnamedRow.1[12]? = some m ∧
      m.deed.Ends 12 (.lookup "adb_enabled" .primary) 12 (.ok ⟨none, .cache, some 2⟩) ∧
      m.before.provider.faults = [] ∧
      m.before.provider.value .global .primary "adb_enabled" = some "0" :=
  ⟨_, run_misnamedRow, placed_seeded, by decide, rfl, .atOnce rfl, rfl, rfl⟩

end Overlap

end SettingsCache
