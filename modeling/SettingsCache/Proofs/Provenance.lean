import SettingsCache.Proofs.Overlap.Ending
import SettingsCache.Proofs.Overlap.Schedule

/-!
# Where hits come from

Whatever the provider and the block do, an answer from the store was once an answer of the provider:
the latest one stored under the name. Since then every check of the tracker has found the generation
that the answer went with, and the tracker is still the one that accepted it.
-/

namespace SettingsCache

/-! ## Stored answers -/

/-- What the outcome of a call says of a name, if it says anything. A row under another name than
the one asked for says that the name is unset. -/
def Call.reported? (name : String) {verb : Verb} (call : Call verb) (outcome : verb.Outcome) :
    Option (Option String) :=
  match call, outcome with
  | .get request, .ok (some reply) => if request.name = name then some reply.value else none
  | .query asked _, .ok row =>
    if asked = name then some ((row.filter fun row ↦ row.name == asked).bind Row.value) else none
  | .list _, .ok reply => reply.values[name]?.map some
  | .get _, .ok none | .get _, .error _ | .query _ _, .error _ | .list _, .error _ => none
  | .put _, _ | .reset _, _ => none

namespace Deed

/-- The read that the deed of a moment completes, if its answer may be kept. -/
def completion? : Deed → Option Completion
  | .resumed _ _ pending outcome _ => (pending.completion? outcome).filter (·.fetch.caching)
  | .began _ _ _ | .noted _ _ | .answered _ _ | .cleared _ | .moved => none

/-- The tracker that the deed of a moment puts in place. -/
def adopted? (deed : Deed) : Option Tracker := deed.completion?.bind Completion.tracker?

/-- The generation that the cache goes by once the deed is done, if the cache had a turn. -/
def generation? : Deed → Option Generation
  | .began _ _ turn => turn.cache.generation
  | .resumed _ _ _ _ turn => turn.cache.generation
  | .cleared turn => turn.cache.generation
  | .noted _ _ | .answered _ _ | .moved => none

/-- What the deed of a moment stores under a name. -/
def stored? (deed : Deed) (name : String) : Option (Option String) :=
  deed.completion?.bind fun k ↦
    if deed.generation?.isSome && deed.generation? == k.known then k.finding.of? name else none

/-- The deed of a moment leaves alone what is stored under a name at a generation: it finds no other
generation, it puts no tracker in place, it is no clearing, and it stores nothing under the name. -/
structure Spares (deed : Deed) (view : BlockView) (name : String) (g : Generation) : Prop where
  checks : ∀ handle slot, .read handle slot ∈ deed.accesses → view handle slot = .ok g
  untracked : deed.adopted? = none
  uncleared : ∀ turn, deed ≠ .cleared turn
  unstored : deed.stored? name = none

end Deed

/-! ## One moment -/

/-- A completion reads nothing of the block. -/
theorem Completed.no_read {k : Completion} {s s' : Store} {accesses : List Access}
    {told : Option Generation} (h : Completed k s s' accesses told) (handle : Handle) (slot : Nat) :
    .read handle slot ∉ accesses := by
  cases h <;> simp [Completion.release, Store.release]

/-- An answer is told to go with a generation if and only if that is the one that the cache goes by
afterwards and that the answer is known to go with. -/
theorem Completed.isSome_told {k : Completion} {s s' : Store} {accesses : List Access}
    {told : Option Generation} (h : Completed k s s' accesses told)
    (hc : k.fetch.caching = true) :
    (s'.generation.isSome && s'.generation == k.known) = told.isSome := by
  cases h with
  | foreign hf => exact absurd (hf.symm.trans hc) Bool.false_ne_true
  | late _ ht hg =>
    rw [Completion.known, ht, Option.map_none, Option.none_or, Option.isSome_none]
    rcases hg with hg | hg
    · rw [hg, Option.isSome_none, Bool.false_and]
    · rw [beq_eq_false_iff_ne.mpr hg, Bool.and_false]
  | kept _ ht ho hg => simp [Completion.known, ht, ho, hg]
  | adopted _ ht => simp [Completion.known, ht, Store.generation]

/-- What a completion stores under a name, by the generation that its answer is told to go with. -/
def Completion.stored? (k : Completion) (told : Option Generation) (name : String) :
    Option (Option String) :=
  if told.isSome then k.finding.of? name else none

/-- What a completion stores under a name is there afterwards. -/
theorem Completed.getElem?_of_stored {k : Completion} {s s' : Store} {accesses : List Access}
    {told : Option Generation} {name : String} {value : Option String}
    (h : Completed k s s' accesses told) (hstored : k.stored? told name = some value) :
    s'.values[name]? = some value := by
  cases h with
  | foreign | late => cases hstored
  | kept | adopted =>
    change k.finding.of? name = some value at hstored
    rw [Store.getElem?_values_keep, hstored, Option.some_or]

/-- What is there under a name under which a completion stores nothing is held over. -/
theorem Completed.held_of_unstored {k : Completion} {s s' : Store} {accesses : List Access}
    {told : Option Generation} {name : String} {value : Option String}
    (h : Completed k s s' accesses told) (hstored : k.stored? told name = none)
    (hv : s'.values[name]? = some value) :
    s.values[name]? = some value ∧ s'.generation = s.generation ∧
      (k.fetch.caching = true → k.tracker? = none) := by
  cases h with
  | foreign hc => exact ⟨hv, rfl, fun h ↦ absurd (hc.symm.trans h) Bool.false_ne_true⟩
  | late hc ht => exact ⟨hv, rfl, fun _ ↦ ht⟩
  | kept hc ht =>
    change k.finding.of? name = none at hstored
    rw [Store.getElem?_values_keep, hstored, Option.none_or] at hv
    exact ⟨hv, Store.generation_keep .., fun _ ↦ ht⟩
  | adopted =>
    change k.finding.of? name = none at hstored
    rw [Store.getElem?_values_keep, hstored, Option.none_or, Std.ExtTreeMap.getElem?_empty] at hv
    cases hv

/-- A read that may not use the store stores nothing. -/
theorem Completed.stored?_eq_none {k : Completion} {s s' : Store} {accesses : List Access}
    {told : Option Generation} (h : Completed k s s' accesses told)
    (hc : k.fetch.caching ≠ true) (name : String) : k.stored? told name = none := by
  cases h with
  | foreign => rfl
  | late hc' | kept hc' | adopted hc' => exact absurd hc' hc

section Resumed

variable {verb : Verb} {kind : Kind} {operation : Operation kind} {since : Nat}
  {pending : Pending verb kind} {outcome : verb.Outcome} {turn : Turn (Progress kind)}
  {k : Completion}

theorem Deed.completion?_resumed (hk : pending.completion? outcome = some k) :
    (Deed.resumed operation since pending outcome turn).completion? =
      if k.fetch.caching then some k else none := by
  rw [completion?, hk, Option.filter_some]

/-- What the deed of a moment stores is what the completion stores that it brings. -/
theorem Completed.stored?_eq {s : Store} {told : Option Generation}
    (h : Completed k s turn.cache.store turn.accesses told)
    (hk : pending.completion? outcome = some k) (name : String) :
    (Deed.resumed operation since pending outcome turn).stored? name = k.stored? told name := by
  rw [Deed.stored?, Deed.completion?_resumed hk]
  by_cases hc : k.fetch.caching = true
  · rw [if_pos hc, Option.bind_some, Completion.stored?, ← h.isSome_told hc]
    rfl
  · rw [if_neg hc, Option.bind_none]
    exact (h.stored?_eq_none hc name).symm

end Resumed

namespace Effect

variable {c : Cache} {view : BlockView} {deed : Deed} {s : Store} {out : List Outstanding}
  {name : String} {value : Option String}

/-- What the deed of a moment stores under a name is there afterwards. -/
theorem getElem?_of_stored (h : Effect c view out deed s)
    (hstored : deed.stored? name = some value) : s.values[name]? = some value := by
  cases h with
  | completed hout hk h =>
    rw [h.stored?_eq hk] at hstored
    exact h.getElem?_of_stored hstored
  | quiet hk =>
    rw [Deed.stored?, Deed.completion?, hk] at hstored
    cases hstored
  | began | cleared | noted | answered | moved => cases hstored

/-- What is there under a name under which the deed of a moment stores nothing is held over and left
alone. -/
theorem spares_of_unstored (h : Effect c view out deed s) (hstored : deed.stored? name = none)
    (hv : s.values[name]? = some value) :
    c.store.values[name]? = some value ∧ s.generation = c.store.generation ∧
      ∀ g, c.store.generation = some g → deed.Spares view name g := by
  cases h with
  | began h =>
    rcases h.checked.emptied_or_held with ⟨hempty, -⟩ | hheld
    · rw [hempty, Std.ExtTreeMap.getElem?_empty] at hv
      cases hv
    · rw [hheld.values] at hv
      refine ⟨hv, hheld.generation, fun g hg ↦ ⟨hheld.found g hg, rfl, ?_, hstored⟩⟩
      exact fun turn h ↦ nomatch h
  | completed hout hk h =>
    have hkept := hstored
    rw [h.stored?_eq hk] at hkept
    obtain ⟨hold, hgen, htracker⟩ := h.held_of_unstored hkept hv
    refine ⟨hold, hgen, fun g _ ↦ ⟨?_, ?_, (fun turn h ↦ nomatch h), hstored⟩⟩
    · exact fun handle slot hread ↦ absurd hread (h.no_read handle slot)
    · rw [Deed.adopted?, Deed.completion?_resumed hk]
      split
      · next hc => exact htracker hc
      · rfl
  | quiet hk ha =>
    refine ⟨hv, rfl, fun g _ ↦ ⟨?_, ?_, (fun turn h ↦ nomatch h), hstored⟩⟩
    · intro handle slot hread
      rw [Deed.accesses, ha] at hread
      exact absurd hread List.not_mem_nil
    · rw [Deed.adopted?, Deed.completion?, hk]
      rfl
  | cleared =>
    rw [Std.ExtTreeMap.getElem?_empty] at hv
    cases hv
  | noted | answered | moved =>
    refine ⟨hv, rfl, fun g _ ↦ ⟨?_, rfl, (fun turn h ↦ nomatch h), hstored⟩⟩
    exact fun handle slot hread ↦ absurd hread List.not_mem_nil

end Effect

/-! ## Whole runs -/

variable {σ : Type} [Provider σ]

/-- A moment of a log at which a read for the owner stores a value under a name. The provider had
answered the value to the call of the read, at the generation that it had noted for the call before
if it had noted one. The generation of the value is the one that was handed over with the answer or
else the one found at the moment at which the read began. -/
inductive Origin (owner : UserId) (log : List (Moment σ)) (p : Nat) (name : String)
    (value : Option String) (g : Generation) : Prop
  | intro {kind : Kind} {verb : Verb} {operation : Operation kind} {since t : Nat}
      {call : Call verb} {pending : Pending verb kind} {noted : Option Generation}
      {outcome : verb.Outcome} {turn : Turn (Progress kind)} {start answer m : Moment σ}
      {view : BlockView} {first : Turn (Progress kind)} (hm : log[p]? = some m)
      (deed : m.deed = .resumed operation since pending outcome turn)
      (reader : operation.reader? = some owner) (hstart : log[since]? = some start)
      (began : start.deed = .began operation view first)
      (fits : Outstanding.Fits m.before.cache
        ⟨operation, since, call, pending, noted, some outcome⟩)
      (after : since ≤ t) (before : t < p) (hanswer : log[t]? = some answer)
      (noting : NotedBetween log since t call noted)
      (answered : answer.Answers call noted outcome)
      (reported : call.reported? name outcome = some value)
      (stored : m.deed.stored? name = some value)
      (generation : m.deed.adopted?.map Tracker.accepted = some g ∨
        m.deed.adopted? = none ∧ start.Confirms g)

/-- At every moment from one to another of a log, what is stored under a name is left alone. -/
def SparedFrom (log : List (Moment σ)) (p n : Nat) (name : String) (g : Generation) : Prop :=
  ∀ q m, p < q → q < n → log[q]? = some m →
    m.deed.Spares (Provider.view m.before.provider) name g

/-- Where a value comes from that is stored under a name by a moment of a log. -/
def Provenance (owner : UserId) (log : List (Moment σ)) (n : Nat) (name : String)
    (value : Option String) (g : Generation) : Prop :=
  ∃ p < n, Origin owner log p name value g ∧ SparedFrom log p n name g

theorem Origin.append {owner : UserId} {log : List (Moment σ)} {p : Nat} {name : String}
    {value : Option String} {g : Generation} (h : Origin owner log p name value g)
    (later : List (Moment σ)) : Origin owner (log ++ later) p name value g := by
  obtain ⟨hm, deed, reader, hstart, began, fits, after, before, hanswer, noting, answered, reported,
    stored, generation⟩ := h
  exact ⟨getElem?_append_of_some hm later, deed, reader, getElem?_append_of_some hstart later,
    began, fits, after, before, getElem?_append_of_some hanswer later, noting.append later,
    answered, reported, stored, generation⟩

/-- What a moment of a log says of an earlier moment, the log says as well. -/
theorem Provenance.append {owner : UserId} {log : List (Moment σ)} {n : Nat} {name : String}
    {value : Option String} {g : Generation} (h : Provenance owner log n name value g)
    (hn : n ≤ log.length) (later : List (Moment σ)) :
    Provenance owner (log ++ later) n name value g := by
  obtain ⟨p, hp, origin, spared⟩ := h
  refine ⟨p, hp, origin.append later, ?_⟩
  intro q m hpq hqn hm
  rw [List.getElem?_append_left (by omega)] at hm
  exact spared q m hpq hqn hm

/-- A moment that leaves alone what is stored goes on with where it comes from. -/
theorem Provenance.snoc {owner : UserId} {log : List (Moment σ)} {name : String}
    {value : Option String} {g : Generation} {m : Moment σ}
    (h : Provenance owner log log.length name value g)
    (hm : m.deed.Spares (Provider.view m.before.provider) name g) :
    Provenance owner (log ++ [m]) (log ++ [m]).length name value g := by
  obtain ⟨p, hp, origin, spared⟩ := h
  have hlen : (log ++ [m]).length = log.length + 1 := by simp
  refine ⟨p, by omega, origin.append [m], ?_⟩
  intro q found hpq hqn hfound
  by_cases hq : q < log.length
  · rw [List.getElem?_append_left hq] at hfound
    exact spared q found hpq hq hfound
  · obtain rfl : q = log.length := by omega
    rw [List.getElem?_concat_length, Option.some.injEq] at hfound
    rw [← hfound]
    exact hm

/-- What a call that fits a read has found of a name is what its outcome says of the name. -/
theorem Outstanding.Fits.reported {c : Cache} {kind : Kind} {verb : Verb}
    {operation : Operation kind} {since : Nat} {call : Call verb} {pending : Pending verb kind}
    {noted : Option Generation} {before : Option verb.Outcome} {outcome : verb.Outcome}
    {k : Completion} (h : Fits c ⟨operation, since, call, pending, noted, before⟩)
    (hk : pending.completion? outcome = some k) (name : String) :
    call.reported? name outcome = k.finding.of? name := by
  cases Pending.completes hk with
  | get =>
    cases h
    rfl
  | query =>
    cases h
    rfl
  | list =>
    cases h
    rfl

namespace Overlap

variable {moves : σ → σ → Prop} {start s s' : Overlap σ} {log : List (Moment σ)} {deed : Deed}

/-- What a step stores under a name has an origin, and it goes with the generation that the cache
goes by from then on. -/
theorem Run.origin (run : Run moves start log s) (fresh : start.Fresh)
    (step : Step moves log.length s deed s') {name : String} {value : Option String}
    (h : deed.stored? name = some value) :
    ∃ g, s'.cache.store.generation = some g ∧
      Origin start.cache.owner (log ++ [⟨s, deed⟩]) log.length name value g := by
  obtain ⟨k, hcompletion, hfound⟩ := Option.bind_eq_some_iff.mp h
  cases step with
  | begin | note | answer | clear | move => cases hcompletion
  | @resume _ _ operation since _ pending _ outcome turn _ _ hout hturn =>
    obtain ⟨hk, hc⟩ := Option.filter_eq_some_iff.mp hcompletion
    have hsound := run.sound fresh _ (mem_of_eq_append_cons hout)
    obtain ⟨user, hreader, hf, hfetch⟩ := hsound.fits.fetch_for hk
    rw [hf.caching_eq] at hc
    rw [Cache.eq_owner_of_caches hc, run.owner fresh] at hreader
    obtain ⟨first, view, opening, hfirst, hbegan⟩ := hsound.began
    obtain ⟨t, answer, hst, hanswer, hnoted, hanswered⟩ := hsound.answered outcome rfl
    have hlt : t < log.length := (List.getElem?_eq_some_iff.mp hanswer).1
    split at hfound
    · next hgen =>
      obtain ⟨hsome, hknown⟩ := Bool.and_eq_true_iff.mp hgen
      obtain ⟨g, hg⟩ := Option.isSome_iff_exists.mp hsome
      rw [hg] at hknown
      have hknown : some g = k.known := eq_of_beq hknown
      have hadopted :
          (Deed.resumed operation since pending outcome turn).adopted? = k.tracker? := by
        rw [Deed.adopted?, hcompletion, Option.bind_some]
      refine ⟨g, hg, List.getElem?_concat_length, rfl, hreader, getElem?_append_of_some hfirst _,
        hbegan, hsound.fits, hst, hlt, getElem?_append_of_some hanswer _, hnoted.append _,
        hanswered, (hsound.fits.reported hk name).trans hfound, h, ?_⟩
      rw [hadopted]
      unfold Completion.known at hknown
      cases ht : k.tracker? with
      | some tracker =>
        rw [ht] at hknown
        exact .inl hknown.symm
      | none =>
        rw [ht, Option.map_none, Option.none_or] at hknown
        obtain ⟨m, hm, hconfirms⟩ := hsound.recorded k.fetch g hfetch hknown.symm
        obtain rfl := Option.some.inj (hm.symm.trans hfirst)
        exact .inr ⟨rfl, hconfirms⟩
    · cases hfound

/-- At every moment of a run, what the store holds under a name comes from a read that stored it at
the generation that the cache goes by, and has been left alone since. -/
theorem Run.provenance (run : Run moves start log s) (fresh : start.Fresh) {name : String}
    {value : Option String} (hv : s.cache.store.values[name]? = some value) :
    ∃ g, s.cache.store.generation = some g ∧
      Provenance start.cache.owner log log.length name value g := by
  induction run generalizing value with
  | nil =>
    rw [fresh.store, Std.ExtTreeMap.getElem?_empty] at hv
    cases hv
  | @snoc log s s' deed run step ih =>
    have heffect := step.effect (run.reporting fresh)
    cases hstored : deed.stored? name with
    | none =>
      obtain ⟨hold, hgen, hspares⟩ := heffect.spares_of_unstored hstored hv
      obtain ⟨g, hg, hprovenance⟩ := ih hold
      exact ⟨g, hgen.trans hg, hprovenance.snoc (hspares g hg)⟩
    | some found =>
      have hfound := heffect.getElem?_of_stored hstored
      rw [hv, Option.some.injEq] at hfound
      subst hfound
      obtain ⟨g, hg, origin⟩ := run.origin fresh step hstored
      refine ⟨g, hg, log.length, by simp, origin, ?_⟩
      intro q m hlt hq hm
      rw [List.length_append, List.length_singleton] at hq
      omega

variable {n : Nat} {m : Moment σ}

/-- An answer from the store goes with the generation that the block has just shown, and it is what
the provider answered to the latest read that stored the name. That read had found the generation
before its call or was handed it over, and since then no check has found anything else, no tracker
was put in place, and the cache was not cleared. -/
theorem Run.hit_provenance (run : Run moves start log s) (fresh : start.Fresh)
    (hm : log[n]? = some m) {name : String} {user : UserId} {since : Nat} {value : Option String}
    {g : Option Generation}
    (h : m.deed.Ends n (.lookup name user) since (.ok ⟨value, .cache, g⟩)) :
    ∃ found, g = some found ∧ since = n ∧ m.Confirms found ∧
      Provenance start.cache.owner log n name value found := by
  obtain ⟨value', found, hreading, hsince, -, hcurrent, hv⟩ | ⟨hsource, -⟩ :=
    run.lookup_ended fresh hm h
  · obtain ⟨rfl, -, rfl⟩ := (Reading.mk.injEq ..).mp hreading
    obtain ⟨run', -⟩ := run.at hm
    obtain ⟨g', hg', hprovenance⟩ := run'.provenance fresh hv
    obtain rfl := Option.some.inj (hg'.symm.trans hcurrent.generation)
    have hlt : n < log.length := (List.getElem?_eq_some_iff.mp hm).1
    have hlen : (log.take n).length = n := by
      rw [List.length_take]
      omega
    rw [hlen] at hprovenance
    have happend := hprovenance.append (Nat.le_of_eq hlen.symm) (log.drop n)
    rw [List.take_append_drop] at happend
    exact ⟨_, rfl, hsince, hcurrent.confirms, happend⟩
  · exact absurd rfl hsource

/-- A lookup, and the same lookup again. -/
def lookupTwice : List Act :=
  [.begin (.lookup "wifi_on" .primary), .answer 0, .resume 0, .begin (.lookup "wifi_on" .primary)]

theorem hit_provenance_lookupTwice :
    ∃ found, (some 2 : Option Generation) = some found ∧
      Provenance .primary (seeded.play [] lookupTwice).1 3 "wifi_on" (some "1") found := by
  have run : Run (fun _ _ ↦ False) seeded _ _ := Run.nil.play lookupTwice
  have hhit : ∃ m, (seeded.play [] lookupTwice).1[3]? = some m ∧ m.deed.Ends 3
      (.lookup "wifi_on" .primary) 3 (.ok ⟨some "1", .cache, some 2⟩) := ⟨_, rfl, .atOnce rfl⟩
  obtain ⟨m, hm, h⟩ := hhit
  obtain ⟨found, hfound, -, -, hprovenance⟩ := run.hit_provenance fresh_seeded hm h
  exact ⟨found, hfound, hprovenance⟩

end Overlap

end SettingsCache
