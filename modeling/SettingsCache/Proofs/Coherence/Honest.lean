import SettingsCache.Proofs.Coherence.Orderly

/-!
# Runs over an honest service

The cache of the service's own user begins with nothing, and all that happens to the service is
fair. Then every tracker follows the counter of the namespace, and what an answered read has found
was true when the service answered.
-/

namespace SettingsCache

/-- What a finding says of a user's settings in a namespace is true of the service. -/
def Finding.TrueOf (ns : Namespace) (user : UserId) (s : Service) : Finding → Prop
  | .value name text => s.value ns user name = text
  | .listing stem values => ∀ name,
    values[name]? = if hasStem stem name then s.value ns user name else none

/-- What a true finding says of a name is so. -/
theorem Finding.TrueOf.value_eq {ns : Namespace} {user : UserId} {s : Service} {finding : Finding}
    (h : finding.TrueOf ns user s) {name : String} {text : Option String}
    (hsaid : finding.of? name = some text) : s.value ns user name = text := by
  cases finding with
  | value found value =>
    change (if found = name then some value else none) = some text at hsaid
    split at hsaid
    · next heq =>
      cases hsaid
      rw [← heq]
      exact h
    · cases hsaid
  | listing stem values =>
    obtain ⟨value, hvalue, rfl⟩ := Option.map_eq_some_iff.mp hsaid
    have hname := h name
    rw [hvalue] at hname
    split at hname
    · exact hname.symm
    · cases hname

/-- A name with the stem of a true listing is unset if the listing does not have it. -/
theorem Finding.TrueOf.value_eq_none {ns : Namespace} {user : UserId} {s : Service} {stem : String}
    {values : NameMap String} (h : (Finding.listing stem values).TrueOf ns user s) {name : String}
    (hstem : hasStem stem name) (hnone : values[name]? = none) : s.value ns user name = none := by
  have hname := h name
  rw [hnone, if_pos hstem] at hname
  exact hname.symm

/-- What the service answers completes a read by a finding that is true then. -/
theorem Outstanding.Fits.found {c : Cache} {kind : Kind} {verb : Verb} {operation : Operation kind}
    {since : Nat} {call : Call verb} {pending : Pending verb kind} {noted : Option Generation}
    {before : Option verb.Outcome} {k : Completion} {s : Service}
    (h : Fits c ⟨operation, since, call, pending, noted, before⟩)
    (named : s.hasFault .misnamedQueryRows = false)
    (hk : pending.completion? (Provider.answer s c.ns call noted).1 = some k) :
    k.finding.TrueOf c.ns (s.requestUser k.fetch.user) s := by
  generalize houtcome : (Provider.answer s c.ns call noted).1 = outcome at hk
  cases Pending.completes hk with
  | get =>
    cases h with
    | get => exact (Service.get_reply noted houtcome).1.symm
  | query =>
    cases h with
    | query => exact (Service.query_row named noted houtcome).symm
  | list =>
    cases h with
    | list => exact (Service.list_reply noted houtcome).1

namespace Overlap

/-- A cache of the service's own user that has kept nothing yet, over an honest service. -/
structure Opening (start : Overlap Service) : Prop where
  fresh : start.Fresh
  own : start.cache.owner = start.provider.ownUser
  honest : start.provider.Honest start.cache.ns

theorem Opening.placed {start : Overlap Service} (opening : start.Opening) : start.Placed :=
  ⟨opening.fresh, opening.own, opening.honest.assigns⟩

/-- The changes of the service that keep it to its word about the namespace of a cache. -/
abbrev Fair (start : Overlap Service) : Service → Service → Prop :=
  Service.Moves (Scenario.ServiceStep.Fair start.cache.ns)

variable {ns : Namespace} {now : Nat} {deed : Deed} {start s s' : Overlap Service}
  {log : List (Moment Service)}

/-- Fair changes are orderly. -/
theorem Run.orderly (run : Run start.Fair start log s) : Run start.Orderly start log s :=
  run.imp fun _ _ hmove ↦ hmove.imp fun _ hstep ↦ hstep.orderly

/-- A step keeps an honest service to its word. -/
theorem Step.honest (step : Step (Service.Moves (Scenario.ServiceStep.Fair ns)) now s deed s')
    (honest : s.provider.Honest ns) : s'.provider.Honest ns := by
  cases step with
  | begin | resume | clear => exact honest.congr (Service.setup_accessAll ..)
  | note hout hnote =>
    obtain ⟨rfl, -⟩ := Service.note?_eq hnote
    exact honest.congr (Service.setup_heard ..)
  | answer => exact honest.congr (Service.setup_answer ..)
  | move hmove => exact honest.moves hmove

theorem Run.honest (run : Run start.Fair start log s) (opening : start.Opening) :
    s.provider.Honest start.cache.ns ∧ s.provider.ownUser = start.provider.ownUser := by
  refine ⟨?_, (run.orderly.assigns opening.placed).2⟩
  induction run with
  | nil => exact opening.honest
  | snoc run step ih => exact step.honest ih

/-- The states of the service make up a history that ticks. -/
theorem Run.ticking (run : Run start.Fair start log s) (opening : start.Opening) :
    Service.Ticking start.cache.ns (providers log s) :=
  run.orderly.counted opening.placed

/-- What an answered read has found was true when the service answered, after the read began. A
hand-over carries the generation at which the counter stood then or at a moment before. -/
theorem Run.found (run : Run start.Fair start log s) (opening : start.Opening) {kind : Kind}
    {verb : Verb} {operation : Operation kind} {since : Nat} {call : Call verb}
    {pending : Pending verb kind} {noted : Option Generation} {outcome : verb.Outcome}
    {user : UserId} {k : Completion}
    (hout : ⟨operation, since, call, pending, noted, some outcome⟩ ∈ s.outstanding)
    (hk : pending.completion? outcome = some k) (hf : k.fetch.For s.cache user) :
    ∃ n m, since ≤ n ∧ log[n]? = some m ∧
      k.finding.TrueOf start.cache.ns user m.before.provider ∧
      ∃ i g, since ≤ i ∧ i ≤ n ∧ Counted start.cache.ns log i g ∧
        ∀ t, k.tracker? = some t → t.slot = start.cache.ns.slot ∧ t.accepted = g := by
  obtain ⟨n, m, hsince, hm, -, hanswer, hown, i, g, hi, hin, hcounted, htracker⟩ :=
    run.orderly.served opening.placed hout
  refine ⟨n, m, hsince, hm, ?_, i, g, hi, hin, hcounted, htracker k hk⟩
  obtain ⟨run', -⟩ := run.at hm
  have hfits := (run.sound opening.fresh _ hout).fits
  rw [← run.ns opening.fresh] at hanswer ⊢
  rw [← hanswer] at hk
  have htrue := hfits.found (run'.honest opening).1.named hk
  rw [hf.requestUser hown] at htrue
  exact htrue

/-- Every tracker follows the counter of the namespace. -/
theorem Run.slot_eq (run : Run start.Fair start log s) (opening : start.Opening) {t : Tracker}
    (ht : s.cache.store.tracker = some t) : t.slot = start.cache.ns.slot :=
  run.orderly.tracks opening.placed ht

variable {n : Nat} {m : Moment Service} {g : Generation}

/-- What a check finds is where the counter of the namespace stands. -/
theorem Run.generation_of_confirms (run : Run start.Fair start log s) (opening : start.Opening)
    (hm : log[n]? = some m) (h : m.Confirms g) :
    m.before.provider.generation start.cache.ns = g :=
  run.orderly.counter_of_confirms opening.placed hm h

end Overlap

end SettingsCache
