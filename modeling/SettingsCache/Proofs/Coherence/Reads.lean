import SettingsCache.Proofs.Coherence.Honest
import SettingsCache.Proofs.Overlap.Schedule

/-!
# Coherence of reads

A value may be stored under a generation that is out of date already, if a write lands while its
call is out. So what the store holds need not be true; but it was true at some moment since the
counter stood at the generation that the store goes by, and this is `Coherent`. When a check finds
the counter at that generation, and the counter has not wrapped around, nothing has changed since,
and what the store holds is true.
-/

namespace SettingsCache

open Service (bumps Ticking)

/-- At some moment of a history since the counter stood at a generation, something was true of the
service. -/
def TrueSince (history : List Service) (ns : Namespace) (g : Generation) (P : Service → Prop) :
    Prop :=
  ∃ (i j : Nat) (s t : Service), i ≤ j ∧ history[i]? = some s ∧ history[j]? = some t ∧
    s.generation ns = g ∧ P t

namespace TrueSince

variable {history : List Service} {ns : Namespace} {g : Generation} {P Q : Service → Prop}

theorem append (h : TrueSince history ns g P) (later : List Service) :
    TrueSince (history ++ later) ns g P := by
  obtain ⟨i, j, s, t, hij, hs, ht, hg, hP⟩ := h
  exact ⟨i, j, s, t, hij, getElem?_append_of_some hs later, getElem?_append_of_some ht later, hg,
    hP⟩

theorem imp (h : TrueSince history ns g P) (hPQ : ∀ s, P s → Q s) : TrueSince history ns g Q := by
  obtain ⟨i, j, s, t, hij, hs, ht, hg, hP⟩ := h
  exact ⟨i, j, s, t, hij, hs, ht, hg, hPQ t hP⟩

/-- What was true since the counter stood where it stands is true, unless the counter has wrapped
around in between. -/
theorem now {u : Service} (h : TrueSince history ns g P) (ticking : Ticking ns history)
    (hlt : bumps ns history < 2 ^ 32) (hlast : history.getLast? = some u)
    (hg : u.generation ns = g) (hP : ∀ s, s.tables.get ns = u.tables.get ns → P s → P u) : P u := by
  obtain ⟨i, j, s, t, hij, hs, ht, hsg, htP⟩ := h
  exact hP t (ticking.steady hlt hij hs ht hlast (hsg.trans hg.symm)).2 htP

end TrueSince

/-- What a store holds was true since the counter stood at the generation that the store goes by. A
stem says that every name with it that is set is among those held. -/
structure Store.Coherent (history : List Service) (ns : Namespace) (user : UserId) (s : Store) :
    Prop where
  values : ∀ g name value, s.generation = some g → s.values[name]? = some value →
    TrueSince history ns g fun service ↦ service.value ns user name = value
  stems : ∀ g stem, s.generation = some g → s.stems.contains stem →
    TrueSince history ns g fun service ↦
      ∀ name, hasStem stem name → s.values[name]? = none → service.value ns user name = none

namespace Store.Coherent

variable {history : List Service} {ns : Namespace} {user : UserId} {s : Store}

theorem append (h : s.Coherent history ns user) (later : List Service) :
    s.Coherent (history ++ later) ns user :=
  ⟨fun g name value hg hv ↦ (h.values g name value hg hv).append later,
    fun g stem hg hs ↦ (h.stems g stem hg hs).append later⟩

/-- A store that holds nothing is coherent. -/
theorem of_empty (hvalues : s.values = ∅) (hstems : s.stems = ∅) :
    s.Coherent history ns user := by
  constructor
  · intro g name value _ hv
    rw [hvalues, Std.ExtTreeMap.getElem?_empty] at hv
    cases hv
  · intro g stem _ hs
    rw [hstems, Std.ExtTreeSet.contains_empty] at hs
    exact absurd hs Bool.false_ne_true

/-- A check leaves a coherent store. -/
theorem checked (h : s.Coherent history ns user) {caching : Bool} {view : BlockView}
    {s' : Store} {accesses : List Access} {g : Option Generation}
    (hchecked : Checked caching view s s' accesses g) : s'.Coherent history ns user := by
  rcases hchecked.emptied_or_held with ⟨hvalues, hstems⟩ | held
  · exact .of_empty hvalues hstems
  · constructor
    · rw [held.generation, held.values]
      exact h.values
    · rw [held.generation, held.values, held.stems]
      exact h.stems

/-- A store stays coherent if it keeps a finding that was true since the counter stood at the
generation that the store goes by. -/
theorem keep (h : s.Coherent history ns user) {finding : Finding}
    (hfinding : ∀ g, s.generation = some g →
      TrueSince history ns g fun service ↦ finding.TrueOf ns user service) :
    (s.keep finding).Coherent history ns user := by
  constructor
  · intro g name value hg hv
    rw [generation_keep] at hg
    rw [getElem?_values_keep] at hv
    cases hsaid : finding.of? name with
    | none =>
      rw [hsaid, Option.none_or] at hv
      exact h.values g name value hg hv
    | some text =>
      rw [hsaid, Option.some_or] at hv
      obtain rfl := Option.some.inj hv
      exact (hfinding g hg).imp fun service htrue ↦ Finding.TrueOf.value_eq htrue hsaid
  · intro g stem hg hs
    rw [generation_keep] at hg
    rcases contains_stems_keep hs with ⟨values, rfl⟩ | hs
    · apply (hfinding g hg).imp
      intro service htrue name hname hnone
      rw [getElem?_values_keep] at hnone
      have hsaid := (Option.or_eq_none_iff.mp hnone).1
      exact Finding.TrueOf.value_eq_none htrue hname (Option.map_eq_none_iff.mp hsaid)
    · apply (h.stems g stem hg hs).imp
      intro service htrue name hname hnone
      rw [getElem?_values_keep] at hnone
      exact htrue name hname (Option.or_eq_none_iff.mp hnone).2

end Store.Coherent

/-- A completion leaves a coherent store if what it stores was true since the counter stood at the
generation that the answer is told to go with. -/
theorem Completed.coherent {history : List Service} {ns : Namespace} {user : UserId}
    {k : Completion} {s s' : Store} {accesses : List Access} {told : Option Generation}
    (h : Completed k s s' accesses told) (hs : s.Coherent history ns user)
    (htrue : ∀ g, told = some g →
      TrueSince history ns g fun service ↦ k.finding.TrueOf ns user service) :
    s'.Coherent history ns user := by
  cases h with
  | foreign | late => exact hs
  | kept hc ht ho hg =>
    apply hs.keep
    intro g' hg'
    exact htrue g' (hg.symm.trans hg')
  | adopted hc ht => exact (Store.Coherent.of_empty rfl rfl).keep htrue

namespace Overlap

variable {start s : Overlap Service} {log : List (Moment Service)}

/-- The store is coherent at every moment of a run. -/
theorem Run.coherent (run : Run start.Fair start log s) (opening : start.Opening) :
    s.cache.store.Coherent (providers log s) start.cache.ns start.cache.owner := by
  induction run with
  | nil =>
    apply Store.Coherent.of_empty <;> rw [opening.fresh.store]
  | @snoc log s s' deed run step ih =>
    rw [providers_snoc]
    apply Store.Coherent.append
    have heffect := step.effect (run.reporting opening.fresh)
    generalize s'.cache.store = after at heffect
    cases heffect with
    | began h => exact ih.checked h.checked
    | @completed _ _ _ since _ _ _ _ _ k told hout hk h =>
      apply h.coherent ih
      intro g htold
      rw [htold] at h
      obtain ⟨hc, hknown⟩ := h.told_eq
      have hsound := run.sound opening.fresh _ hout
      obtain ⟨user, -, hf, hfetch⟩ := hsound.fits.fetch_for hk
      rw [hf.caching_eq] at hc
      have huser : user = start.cache.owner :=
        (Cache.eq_owner_of_caches hc).trans (run.owner opening.fresh)
      obtain ⟨n, m, hsince, hm, htrue, i, counted, -, hin, ⟨_, hi, hcounted⟩, htracker⟩ :=
        run.found opening hout hk hf
      rw [huser] at htrue
      have hn := getElem?_providers hm s
      rcases hknown with ⟨t, ht, haccepted⟩ | ⟨-, hobserved⟩
      · exact ⟨i, n, _, _, hin, getElem?_providers hi s, hn,
          hcounted.trans ((htracker t ht).2.symm.trans haccepted), htrue⟩
      · obtain ⟨first, hfirst, hconfirms⟩ := hsound.recorded k.fetch g hfetch hobserved
        exact ⟨since, n, _, _, hsince, getElem?_providers hfirst s, hn,
          run.generation_of_confirms opening hfirst hconfirms, htrue⟩
    | quiet | noted | answered | moved => exact ih
    | cleared => exact .of_empty rfl rfl

variable {n : Nat} {m : Moment Service}

/-- What was true since the counter stood at the generation that a check has just found is true. -/
theorem Run.true_of_current (run : Run start.Fair start log s) (opening : start.Opening)
    (hbumps : bumps start.cache.ns (providers log s) < 2 ^ 32) (hm : log[n]? = some m)
    {g : Generation} (hcurrent : m.Current g) {P : Service → Prop}
    (hP : ∀ s t, s.tables.get start.cache.ns = t.tables.get start.cache.ns → P s → P t)
    (h : TrueSince (providers (log.take n) m.before) start.cache.ns g P) :
    P m.before.provider := by
  obtain ⟨run', -⟩ := run.at hm
  have hlt : bumps start.cache.ns (providers (log.take n) m.before) < 2 ^ 32 := by
    rw [providers_take hm s]
    exact Nat.lt_of_le_of_lt (Service.bumps_take_le ..) hbumps
  exact h.now (run'.ticking opening) hlt (getLast?_providers ..)
    (run.generation_of_confirms opening hm hcurrent.confirms) fun t ↦ hP t _

/-- What the store holds is what the service holds when a check finds the store's generation. -/
theorem Run.value_of_current (run : Run start.Fair start log s) (opening : start.Opening)
    (hbumps : bumps start.cache.ns (providers log s) < 2 ^ 32) (hm : log[n]? = some m)
    {g : Generation} (hcurrent : m.Current g) {name : String} {value : Option String}
    (hv : m.before.cache.store.values[name]? = some value) :
    m.before.provider.value start.cache.ns start.cache.owner name = value := by
  obtain ⟨run', -⟩ := run.at hm
  have hsince := (run'.coherent opening).values g name value hcurrent.generation hv
  apply run.true_of_current opening hbumps hm hcurrent _ hsince
  intro s t heq hs
  rw [← Service.value_congr heq]
  exact hs

/-- What the store lacks under a stem that it knows is unset at the service when a check finds the
store's generation. -/
theorem Run.unset_of_current (run : Run start.Fair start log s) (opening : start.Opening)
    (hbumps : bumps start.cache.ns (providers log s) < 2 ^ 32) (hm : log[n]? = some m)
    {g : Generation} (hcurrent : m.Current g) {stem : String}
    (hs : m.before.cache.store.stems.contains stem) {name : String} (hname : hasStem stem name)
    (hv : m.before.cache.store.values[name]? = none) :
    m.before.provider.value start.cache.ns start.cache.owner name = none := by
  obtain ⟨run', -⟩ := run.at hm
  have hsince := (run'.coherent opening).stems g stem hcurrent.generation hs
  refine run.true_of_current opening hbumps hm hcurrent ?_ (hsince.imp fun _ h ↦ h name hname hv)
  intro s t heq hs
  rw [← Service.value_congr heq]
  exact hs

/-- A read that a call completes has a finding that was true between its beginning and its end. -/
theorem Run.found_of_completes (run : Run start.Fair start log s) (opening : start.Opening)
    (hm : log[n]? = some m) {kind : Kind} {operation : Operation kind} {since : Nat}
    {user : UserId} {finding : Finding} (h : m.Completes operation since user finding) :
    ∃ j between, since ≤ j ∧ j ≤ n ∧ log[j]? = some between ∧
      finding.TrueOf start.cache.ns user between.before.provider := by
  obtain ⟨hout, hk, hf, rfl⟩ := h
  obtain ⟨run', -⟩ := run.at hm
  obtain ⟨j, between, hsince, hbetween, htrue, -⟩ := run'.found opening hout hk hf
  obtain ⟨hj, hbetween⟩ := getElem?_of_take hbetween
  exact ⟨j, between, hsince, Nat.le_of_lt hj, hbetween, htrue⟩

/-- A lookup that succeeds answers what the service held at some moment between its beginning and
its end. If it is answered from the store, it answers what the service holds when the generation is
checked. -/
theorem Run.lookup_coherent (run : Run start.Fair start log s) (opening : start.Opening)
    (hbumps : bumps start.cache.ns (providers log s) < 2 ^ 32) (hm : log[n]? = some m)
    {name : String} {user : UserId} {since : Nat} {reading : Reading}
    (h : m.deed.Ends n (.lookup name user) since (.ok reading)) :
    (∃ first view turn, log[since]? = some first ∧
      first.deed = .began (.lookup name user) view turn) ∧
    (∃ j between, since ≤ j ∧ j ≤ n ∧ log[j]? = some between ∧
      between.before.provider.value start.cache.ns user name = reading.value) ∧
    (reading.source = .cache →
      since = n ∧ m.before.provider.value start.cache.ns user name = reading.value) := by
  obtain ⟨-, hbegan⟩ := run.began_of_ends opening.fresh hm h
  obtain ⟨run', -⟩ := run.at hm
  refine ⟨hbegan, ?_⟩
  obtain ⟨value, g, rfl, rfl, huser, hcurrent, hv⟩ | ⟨hsource, hcompletes⟩ :=
    run.lookup_ended opening.fresh hm h
  · rw [run'.owner opening.fresh] at huser
    have hvalue := run.value_of_current opening hbumps hm hcurrent hv
    rw [huser]
    exact ⟨⟨_, m, Nat.le_refl _, Nat.le_refl _, hm, hvalue⟩, fun _ ↦ ⟨rfl, hvalue⟩⟩
  · exact ⟨run.found_of_completes opening hm hcompletes, fun h ↦ absurd h hsource⟩

theorem opening_seeded : seeded.Opening :=
  ⟨fresh_seeded, rfl, rfl, rfl, fun _ h ↦ nomatch h⟩

/-- A write lands between the two parts of the answer to a lookup, and another one between the
answer and the completion; the lookup is made twice again. -/
def writeInFlight : List Act :=
  [.begin (.lookup "wifi_on" .primary), .note 0,
    .begin (.put ⟨"wifi_on", some "2", .primary, none, false⟩), .answer 1, .resume 1, .answer 0,
    .begin (.put ⟨"wifi_on", some "3", .primary, none, false⟩), .answer 1, .resume 1, .resume 0,
    .begin (.lookup "wifi_on" .primary), .answer 0, .resume 0, .begin (.lookup "wifi_on" .primary)]

/-- The first lookup answers what the service held after the first write, and the last one, from the
store, what it holds. -/
theorem lookup_coherent_writeInFlight :
    (∃ m j between, (seeded.play [] writeInFlight).1[9]? = some m ∧
      m.deed.Ends 9 (.lookup "wifi_on" .primary) 0 (.ok ⟨some "2", .fastPath, some 2⟩) ∧
      j ≤ 9 ∧ (seeded.play [] writeInFlight).1[j]? = some between ∧
      between.before.provider.value .global .primary "wifi_on" = some "2") ∧
    ∃ m, (seeded.play [] writeInFlight).1[13]? = some m ∧
      m.deed.Ends 13 (.lookup "wifi_on" .primary) 13 (.ok ⟨some "3", .cache, some 4⟩) ∧
      m.before.provider.value .global .primary "wifi_on" = some "3" := by
  have run : Run seeded.Fair seeded _ _ := Run.nil.play writeInFlight
  have hbumps : bumps .global
      (providers (seeded.play [] writeInFlight).1 (seeded.play [] writeInFlight).2) < 2 ^ 32 := by
    decide
  have hfirst : ∃ m, (seeded.play [] writeInFlight).1[9]? = some m ∧
      m.deed.Ends 9 (.lookup "wifi_on" .primary) 0 (.ok ⟨some "2", .fastPath, some 2⟩) :=
    ⟨_, rfl, .afterCall rfl⟩
  have hhit : ∃ m, (seeded.play [] writeInFlight).1[13]? = some m ∧
      m.deed.Ends 13 (.lookup "wifi_on" .primary) 13 (.ok ⟨some "3", .cache, some 4⟩) :=
    ⟨_, rfl, .atOnce rfl⟩
  constructor
  · obtain ⟨m, hm, h⟩ := hfirst
    obtain ⟨-, ⟨j, between, -, hj, hbetween, hvalue⟩, -⟩ :=
      run.lookup_coherent opening_seeded hbumps hm h
    exact ⟨m, j, between, hm, h, hj, hbetween, hvalue⟩
  · obtain ⟨m, hm, h⟩ := hhit
    exact ⟨m, hm, h, ((run.lookup_coherent opening_seeded hbumps hm h).2.2 rfl).2⟩

/-- A listing that succeeds answers all that the service held under names with the stem, and nothing
else, at one moment between its beginning and its end. If it is answered in its first turn, that
moment is when the generation is checked. -/
theorem Run.list_coherent (run : Run start.Fair start log s) (opening : start.Opening)
    (hbumps : bumps start.cache.ns (providers log s) < 2 ^ 32) (hm : log[n]? = some m)
    {stem : String} {user : UserId} {since : Nat} {values : NameMap String}
    (h : m.deed.Ends n (.list stem user) since (.ok values)) :
    (∃ first view turn, log[since]? = some first ∧
      first.deed = .began (.list stem user) view turn) ∧
    ∃ j between, since ≤ j ∧ j ≤ n ∧ log[j]? = some between ∧ ∀ name, values[name]? =
      if hasStem stem name then between.before.provider.value start.cache.ns user name
      else none := by
  obtain ⟨-, hbegan⟩ := run.began_of_ends opening.fresh hm h
  obtain ⟨run', -⟩ := run.at hm
  refine ⟨hbegan, ?_⟩
  obtain ⟨rfl, rfl, huser, ⟨g, hcurrent⟩, hstem⟩ | hcompletes :=
    run.list_ended opening.fresh hm h
  · rw [run'.owner opening.fresh] at huser
    refine ⟨_, m, Nat.le_refl _, Nat.le_refl _, hm, ?_⟩
    intro name
    rw [Store.listing, NameMap.getElem?_select, NameMap.getElem?_withStem, huser]
    split
    · next hname =>
      cases hv : m.before.cache.store.values[name]? with
      | none => exact (run.unset_of_current opening hbumps hm hcurrent hstem hname hv).symm
      | some value => exact (run.value_of_current opening hbumps hm hcurrent hv).symm
    · rfl
  · exact run.found_of_completes opening hm hcompletes

/-- A write lands between the two parts of the answer to a listing, which is made twice again. -/
def listThrice : List Act :=
  [.begin (.list "wifi" .primary), .note 0,
    .begin (.put ⟨"wifi_sleep", some "5", .primary, none, false⟩), .answer 1, .resume 1, .answer 0,
    .resume 0, .begin (.list "wifi" .primary), .answer 0, .resume 0, .begin (.list "wifi" .primary)]

/-- A listing that began at one moment and ended at another has answered both values, as the service
held them at some moment in between. -/
def ListsBoth (since n : Nat) : Prop :=
  ∃ m values, (seeded.play [] listThrice).1[n]? = some m ∧
    m.deed.Ends n (.list "wifi" .primary) since (.ok values) ∧
    values.toList = [("wifi_on", "1"), ("wifi_sleep", "5")] ∧
    ∃ j between, since ≤ j ∧ j ≤ n ∧ (seeded.play [] listThrice).1[j]? = some between ∧
      ∀ name, values[name]? = if hasStem "wifi" name then
        between.before.provider.value .global .primary name else none

/-- The first listing answers all that the service held after the write, and so does the last one,
from the store. -/
theorem list_coherent_listThrice : ListsBoth 0 6 ∧ ListsBoth 10 10 := by
  have run : Run seeded.Fair seeded _ _ := Run.nil.play listThrice
  have hbumps : bumps .global
      (providers (seeded.play [] listThrice).1 (seeded.play [] listThrice).2) < 2 ^ 32 := by
    decide
  have both {since n : Nat} {m : Moment Service} {values : NameMap String}
      (hm : (seeded.play [] listThrice).1[n]? = some m)
      (h : m.deed.Ends n (.list "wifi" .primary) since (.ok values))
      (hvalues : values.toList = [("wifi_on", "1"), ("wifi_sleep", "5")]) : ListsBoth since n :=
    ⟨m, values, hm, h, hvalues, (run.list_coherent opening_seeded hbumps hm h).2⟩
  constructor
  · exact both rfl (.afterCall rfl) (by decide +kernel)
  · exact both rfl (.atOnce rfl) (by decide +kernel)

end Overlap

end SettingsCache
