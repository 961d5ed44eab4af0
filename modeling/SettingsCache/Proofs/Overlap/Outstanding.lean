import SettingsCache.Proofs.Overlap.Effect

/-!
# Calls that are out

A call that is out is a call of its operation, and what is pending of the operation goes with it.
The generation that a read remembers is one that the tracker found when the operation began. What a
call came to is what the provider answered since, at the generation that it had noted for the call
if it had noted one. `Overlap.Run.sound` says that this holds of every call at every moment of a
run.
-/

namespace SettingsCache

/-- The user whose settings an operation reads. -/
def Operation.reader? {kind : Kind} : Operation kind → Option UserId
  | .lookup _ user | .list _ user => some user
  | .put _ | .reset _ => none

namespace Outstanding

/-- The call, and what is pending, are those of the operation. -/
inductive Fits (c : Cache) : Outstanding → Prop
  | get {name : String} {user : UserId} {since : Nat} {track : Bool} {fetch : Fetch}
      {noted : Option Generation} {outcome : Option (Verb.Outcome .get)} (hf : fetch.For c user) :
      Fits c ⟨.lookup name user, since, .get ⟨name, fetch.user, track⟩, .get name fetch, noted,
        outcome⟩
  | query {name : String} {user : UserId} {since : Nat} {fetch : Fetch}
      {noted : Option Generation} {outcome : Option (Verb.Outcome .query)} (hf : fetch.For c user) :
      Fits c ⟨.lookup name user, since, .query name fetch.user, .query name fetch, noted, outcome⟩
  | list {stem : String} {user : UserId} {since : Nat} {track : Bool} {fetch : Fetch}
      {noted : Option Generation} {outcome : Option (Verb.Outcome .list)} (hf : fetch.For c user) :
      Fits c ⟨.list stem user, since, .list ⟨stem, fetch.user, track⟩, .list stem fetch, noted,
        outcome⟩
  | put {request : PutRequest} {since : Nat} {noted : Option Generation}
      {outcome : Option (Verb.Outcome .put)} :
      Fits c ⟨.put request, since, .put request, .put, noted, outcome⟩
  | reset {request : ResetRequest} {since : Nat} {noted : Option Generation}
      {outcome : Option (Verb.Outcome .reset)} :
      Fits c ⟨.reset request, since, .reset request, .reset, noted, outcome⟩

/-- A call that a turn has made fits its operation, and what a read remembers goes with it. -/
structure Called (c : Cache) (fetch : Option Fetch) (o : Outstanding) : Prop where
  fits : o.Fits c
  fetch_eq : ∀ f, o.pending.fetch? = some f → fetch = some f

end Outstanding

/-- A call that a turn has made is of the operation, and is not answered yet. -/
theorem Progress.eq_of_mem_outstanding {kind : Kind} {operation : Operation kind} {since : Nat}
    {progress : Progress kind} {o : Outstanding} (h : o ∈ progress.outstanding operation since) :
    ∃ (verb : Verb) (call : Call verb) (pending : Pending verb kind),
      progress = .calling call pending ∧ o = ⟨operation, since, call, pending, none, none⟩ := by
  cases progress with
  | done => exact absurd h List.not_mem_nil
  | calling call pending => exact ⟨_, call, pending, rfl, List.mem_singleton.mp h⟩

theorem Fetch.For.congr {c c' : Cache} {user : UserId} {fetch : Fetch} (h : fetch.For c user)
    (hi : c'.identity = c.identity) : fetch.For c' user := by
  obtain ⟨-, howner, hconfig⟩ : c'.ns = c.ns ∧ c'.owner = c.owner ∧ c'.config = c.config := by
    simpa only [Cache.identity, Prod.mk.injEq] using hi
  constructor
  · rw [howner]
    exact h.user_eq
  · unfold Cache.caches
    rw [howner, hconfig]
    exact h.caching_eq

namespace Outstanding

theorem Fits.congr {c c' : Cache} {o : Outstanding} (h : o.Fits c)
    (hi : c'.identity = c.identity) : o.Fits c' := by
  cases h with
  | get hf => exact .get (hf.congr hi)
  | query hf => exact .query (hf.congr hi)
  | list hf => exact .list (hf.congr hi)
  | put => exact .put
  | reset => exact .reset

/-- What the provider makes of a call does not bear on what the call is. -/
theorem Fits.answer {c : Cache} {o : Outstanding} (h : o.Fits c) (noted : Option Generation)
    (outcome : Option o.verb.Outcome) : Fits c { o with noted := noted, outcome := outcome } := by
  cases h with
  | get hf => exact .get hf
  | query hf => exact .query hf
  | list hf => exact .list hf
  | put => exact .put
  | reset => exact .reset

/-- What the first turn of an operation calls fits it. -/
theorem called_of_opened {c : Cache} {s : Store} {fetch : Fetch} {kind : Kind}
    {operation : Operation kind} {progress : Progress kind}
    (h : Opened c s fetch operation progress) (since : Nat) :
    ∀ o ∈ progress.outstanding operation since, o.Called c (some fetch) := by
  intro o ho
  cases h with
  | hit | listed | lookupRefused | listRefused => exact absurd ho List.not_mem_nil
  | get hf =>
    obtain rfl := List.mem_singleton.mp ho
    exact ⟨.get hf, fun _ h ↦ h⟩
  | query hf =>
    obtain rfl := List.mem_singleton.mp ho
    exact ⟨.query hf, fun _ h ↦ h⟩
  | list hf =>
    obtain rfl := List.mem_singleton.mp ho
    exact ⟨.list hf, fun _ h ↦ h⟩
  | put =>
    obtain rfl := List.mem_singleton.mp ho
    exact ⟨.put, fun _ h ↦ nomatch h⟩
  | reset =>
    obtain rfl := List.mem_singleton.mp ho
    exact ⟨.reset, fun _ h ↦ nomatch h⟩

/-- Falling back calls for the same read. -/
private theorem called_of_fallBack (c : Cache) {since : Nat} {name : String} {user : UserId}
    {fetch : Fetch} (hf : fetch.For c user) (out : Cache) (e : RemoteError) :
    ∀ o ∈ (out.fallBack fetch name e).result.outstanding (.lookup name user) since,
      o.Called c (some fetch) := by
  intro o ho
  rcases Cache.result_fallBack out fetch name e with h | h
  · rw [h] at ho
    exact absurd ho List.not_mem_nil
  · rw [h] at ho
    obtain rfl := List.mem_singleton.mp ho
    exact ⟨.query hf, fun _ h ↦ h⟩

/-- What a later turn of an operation calls fits it as well, and goes on with what the operation
remembers. -/
theorem Fits.called_of_resume {c : Cache} {kind : Kind} {verb : Verb}
    {operation : Operation kind} {since : Nat} {call : Call verb} {pending : Pending verb kind}
    {noted : Option Generation} {outcome : verb.Outcome}
    (h : Fits c ⟨operation, since, call, pending, noted, some outcome⟩) :
    ∀ o ∈ (c.resume pending outcome).result.outstanding operation since,
      o.Called c pending.fetch? := by
  cases h with
  | get hf =>
    rcases outcome with e | _ | reply
    · exact called_of_fallBack c hf (c.record .remoteError) e
    · exact called_of_fallBack c hf c _
    · exact fun o ho ↦ absurd ho List.not_mem_nil
  | query | list | put | reset =>
    rcases outcome with e | reply <;> exact fun o ho ↦ absurd ho List.not_mem_nil

/-- A call that completes a read completes it for the user whose settings the operation reads. -/
theorem Fits.fetch_for {c : Cache} {kind : Kind} {verb : Verb} {operation : Operation kind}
    {since : Nat} {call : Call verb} {pending : Pending verb kind} {noted : Option Generation}
    {before : Option verb.Outcome} {outcome : verb.Outcome} {k : Completion}
    (h : Fits c ⟨operation, since, call, pending, noted, before⟩)
    (hk : pending.completion? outcome = some k) :
    ∃ user, operation.reader? = some user ∧ k.fetch.For c user ∧
      pending.fetch? = some k.fetch := by
  cases Pending.completes hk with
  | get =>
    cases h with
    | get hf => exact ⟨_, rfl, hf, rfl⟩
  | query =>
    cases h with
    | query hf => exact ⟨_, rfl, hf, rfl⟩
  | list =>
    cases h with
    | list hf => exact ⟨_, rfl, hf, rfl⟩

/-- A lookup that ends after a call of it answers what the call found under its name. -/
theorem Fits.finding_of_lookup {c out : Cache} {name : String} {user : UserId} {since : Nat}
    {verb : Verb} {call : Call verb} {pending : Pending verb .lookup} {noted : Option Generation}
    {before : Option verb.Outcome} {outcome : verb.Outcome} {reading : Reading}
    (h : Fits c ⟨.lookup name user, since, call, pending, noted, before⟩)
    (hr : (out.resume pending outcome).result = .done (.ok reading)) :
    ∃ k, pending.completion? outcome = some k ∧ k.fetch.For c user ∧
      k.finding = .value name reading.value ∧ reading.source ≠ .cache := by
  cases h with
  | @get _ _ _ _ fetch _ _ hf =>
    rcases outcome with e | _ | reply
    · obtain h | h := Cache.result_fallBack (out.record .remoteError) fetch name e
      all_goals exact absurd (h.symm.trans hr) (by simp)
    · obtain h | h := Cache.result_fallBack out fetch name
        (.communication (out.ns.method .get) "empty reply")
      all_goals exact absurd (h.symm.trans hr) (by simp)
    · cases hr
      exact ⟨_, rfl, hf, rfl, Source.noConfusion⟩
  | query hf =>
    rcases outcome with e | row
    · exact absurd hr (by simp [Cache.resume])
    · cases hr
      exact ⟨_, rfl, hf, rfl, Source.noConfusion⟩

/-- A listing that ends after a call of it answers what the call found. -/
theorem Fits.finding_of_list {c out : Cache} {stem : String} {user : UserId} {since : Nat}
    {verb : Verb} {call : Call verb} {pending : Pending verb .listing} {noted : Option Generation}
    {before : Option verb.Outcome} {outcome : verb.Outcome} {values : NameMap String}
    (h : Fits c ⟨.list stem user, since, call, pending, noted, before⟩)
    (hr : (out.resume pending outcome).result = .done (.ok values)) :
    ∃ k, pending.completion? outcome = some k ∧ k.fetch.For c user ∧
      k.finding = .listing stem values := by
  cases h with
  | list hf =>
    rcases outcome with e | reply
    · exact absurd hr (by simp [Cache.resume])
    · cases hr
      exact ⟨_, rfl, hf, rfl⟩

end Outstanding

/-! ## Calls and the log -/

variable {σ : Type} [Provider σ]

/-- At this moment the cache read its tracker's slot, and found a generation. -/
def Moment.Confirms (m : Moment σ) (g : Generation) : Prop :=
  ∃ t, m.before.cache.store.tracker = some t ∧
    m.deed.accesses = [.read t.handle t.slot] ∧
    Provider.view m.before.provider t.handle t.slot = .ok g

/-- At this moment the provider noted a generation for a call. -/
def Moment.Notes (m : Moment σ) {verb : Verb} (call : Call verb) (generation : Generation) : Prop :=
  m.deed = .noted call generation ∧ ∃ provider,
    Provider.note? m.before.provider m.before.cache.ns call = some (generation, provider)

/-- At this moment the provider answered a call, for which it may have noted a generation, with an
outcome. -/
def Moment.Answers (m : Moment σ) {verb : Verb} (call : Call verb) (noted : Option Generation)
    (outcome : verb.Outcome) : Prop :=
  m.deed = .answered call outcome ∧
    (Provider.answer m.before.provider m.before.cache.ns call noted).1 = outcome

/-- A generation that was noted for a call was noted at a moment from one on and before another. -/
def NotedBetween (log : List (Moment σ)) (first last : Nat) {verb : Verb} (call : Call verb)
    (noted : Option Generation) : Prop :=
  ∀ generation, noted = some generation →
    ∃ n m, first ≤ n ∧ n < last ∧ log[n]? = some m ∧ m.Notes call generation

namespace NotedBetween

variable {log : List (Moment σ)} {first last : Nat} {verb : Verb} {call : Call verb}
  {noted : Option Generation}

theorem append (h : NotedBetween log first last call noted) (later : List (Moment σ)) :
    NotedBetween (log ++ later) first last call noted := by
  intro generation hnoted
  obtain ⟨n, m, hfirst, hlast, hm, hnotes⟩ := h generation hnoted
  exact ⟨n, m, hfirst, hlast, getElem?_append_of_some hm later, hnotes⟩

theorem snoc (h : NotedBetween log first log.length call noted) (m : Moment σ) :
    NotedBetween (log ++ [m]) first (log ++ [m]).length call noted := by
  intro generation hnoted
  obtain ⟨n, m', hfirst, hlt, hm', hnotes⟩ := h generation hnoted
  refine ⟨n, m', hfirst, ?_, getElem?_append_of_some hm' [m], hnotes⟩
  rw [List.length_append]
  exact Nat.lt_add_right _ hlt

theorem of_notes {m : Moment σ} {generation : Generation} (hfirst : first ≤ log.length)
    (h : m.Notes call generation) :
    NotedBetween (log ++ [m]) first (log ++ [m]).length call (some generation) := by
  intro found hfound
  cases hfound
  refine ⟨log.length, m, hfirst, ?_, List.getElem?_concat_length, h⟩
  rw [List.length_append, List.length_singleton]
  exact Nat.lt_succ_self _

end NotedBetween

/-- A check that leaves a generation has found it. -/
theorem Checked.found {caching : Bool} {view : BlockView} {s s' : Store}
    {accesses : List Access} {g : Generation} (h : Checked caching view s s' accesses (some g)) :
    ∃ t, s.tracker = some t ∧ accesses = [.read t.handle t.slot] ∧
      view t.handle t.slot = .ok g := by
  cases h with
  | moved _ ht hv _ => exact ⟨_, ht, rfl, hv⟩
  | steady _ ht hv => exact ⟨_, ht, rfl, hv⟩

namespace Outstanding

/-- A call that is out fits its operation, and what is remembered of it stands in the log. -/
structure Sound (c : Cache) (log : List (Moment σ)) (o : Outstanding) : Prop where
  fits : o.Fits c
  /-- The operation began at its moment. -/
  began : ∃ m view turn, log[o.since]? = some m ∧ m.deed = .began o.operation view turn
  /-- The generation that a read remembers was found at the moment at which it began. -/
  recorded : ∀ fetch g, o.pending.fetch? = some fetch → fetch.observed = some g →
    ∃ m, log[o.since]? = some m ∧ m.Confirms g
  /-- A generation that was noted for the call was noted since. -/
  noted : NotedBetween log o.since log.length o.call o.noted
  /-- What the call came to is what the provider answered since, after it had noted. -/
  answered : ∀ outcome, o.outcome = some outcome →
    ∃ t m, o.since ≤ t ∧ log[t]? = some m ∧ NotedBetween log o.since t o.call o.noted ∧
      m.Answers o.call o.noted outcome

theorem Sound.since_lt {c : Cache} {log : List (Moment σ)} {o : Outstanding}
    (h : o.Sound c log) : o.since < log.length := by
  obtain ⟨m, view, turn, hm, -⟩ := h.began
  exact (List.getElem?_eq_some_iff.mp hm).1

theorem Sound.congr {c c' : Cache} {log : List (Moment σ)} {o : Outstanding}
    (h : o.Sound c log) (hi : c'.identity = c.identity) : o.Sound c' log :=
  ⟨h.fits.congr hi, h.began, h.recorded, h.noted, h.answered⟩

/-- The log goes on to say what it said. -/
theorem Sound.snoc {c c' : Cache} {log : List (Moment σ)} {o : Outstanding}
    (h : o.Sound c log) (hi : c'.identity = c.identity) (m : Moment σ) :
    o.Sound c' (log ++ [m]) where
  fits := h.fits.congr hi
  began := by
    obtain ⟨m', view, turn, hm', hd⟩ := h.began
    exact ⟨m', view, turn, getElem?_append_of_some hm' [m], hd⟩
  recorded fetch g hf hg := by
    obtain ⟨m', hm', hc⟩ := h.recorded fetch g hf hg
    exact ⟨m', getElem?_append_of_some hm' [m], hc⟩
  noted := h.noted.snoc m
  answered outcome ho := by
    obtain ⟨t, m', ht, hm', hn, ha⟩ := h.answered outcome ho
    exact ⟨t, m', ht, getElem?_append_of_some hm' [m], hn.append [m], ha⟩

/-- What is noted for a call is what its moment says that it is. -/
theorem Sound.note {c : Cache} {log : List (Moment σ)} {o : Outstanding} {generation : Generation}
    {m : Moment σ} (h : o.Sound c log) (hout : o.outcome = none) (hm : m.Notes o.call generation) :
    Sound c (log ++ [m]) { o with noted := some generation } where
  fits := h.fits.answer ..
  began := (h.snoc rfl m).began
  recorded := (h.snoc rfl m).recorded
  noted := .of_notes (Nat.le_of_lt h.since_lt) hm
  answered _ hfound := nomatch hout.symm.trans hfound

/-- An answer is what its moment says that it is. -/
theorem Sound.answer {c : Cache} {log : List (Moment σ)} {o : Outstanding}
    {outcome : o.verb.Outcome} {m : Moment σ} (h : o.Sound c log)
    (hm : m.Answers o.call o.noted outcome) :
    Sound c (log ++ [m]) { o with outcome := some outcome } where
  fits := h.fits.answer ..
  began := (h.snoc rfl m).began
  recorded := (h.snoc rfl m).recorded
  noted := (h.snoc rfl m).noted
  answered found hfound := by
    cases hfound
    exact ⟨log.length, m, Nat.le_of_lt h.since_lt, List.getElem?_concat_length, h.noted.append [m],
      hm⟩

end Outstanding

namespace Overlap

variable {moves : σ → σ → Prop} {now : Nat} {deed : Deed} {s s' start : Overlap σ}
  {log : List (Moment σ)}

/-- What holds of every call that is out goes on to hold of them all, if neither a note nor an
answer takes it away and if it holds of the calls that a turn makes. -/
theorem Step.forall_outstanding (step : Step moves now s deed s') {P : Outstanding → Prop}
    (waits : ∀ o ∈ s.outstanding, P o)
    (noted : ∀ o ∈ s.outstanding, o.noted = none → o.outcome = none → ∀ generation,
      Moment.Notes ⟨s, deed⟩ o.call generation → P { o with noted := some generation })
    (answered : ∀ o ∈ s.outstanding, o.outcome = none → ∀ outcome,
      Moment.Answers ⟨s, deed⟩ o.call o.noted outcome → P { o with outcome := some outcome })
    (began : ∀ {kind : Kind} (operation : Operation kind) (turn : Turn (Progress kind)),
      turn = s.cache.start (Provider.view s.provider) operation →
      deed = .began operation (Provider.view s.provider) turn →
      ∀ o ∈ turn.result.outstanding operation now, P o)
    (resumed : ∀ o ∈ s.outstanding, ∀ outcome, o.outcome = some outcome →
      ∀ o' ∈ (s.cache.resume o.pending outcome).result.outstanding o.operation o.since, P o') :
    ∀ o ∈ s'.outstanding, P o := by
  -- One call is replaced by another of which the property holds.
  have replaced {before after : List Outstanding} {o o' : Outstanding}
      (hout : s.outstanding = before ++ o :: after) (ho' : P o') :
      ∀ o ∈ before ++ o' :: after, P o := by
    intro o ho
    rw [hout] at waits
    simp only [List.mem_append, List.mem_cons] at waits ho
    rcases ho with ho | rfl | ho
    · exact waits o (.inl ho)
    · exact ho'
    · exact waits o (.inr (.inr ho))
  intro o ho
  cases step with
  | begin operation hturn =>
    rcases List.mem_append.mp ho with ho | ho
    · exact waits o ho
    · exact began operation _ hturn rfl o ho
  | note hout hnote =>
    have hnoted := noted _ (mem_of_eq_append_cons hout) rfl rfl _ ⟨rfl, _, hnote⟩
    exact replaced hout hnoted o ho
  | answer hout hanswer =>
    have hanswered := answered _ (mem_of_eq_append_cons hout) rfl _ ⟨rfl, hanswer.symm⟩
    exact replaced hout hanswered o ho
  | resume hout hturn =>
    have hresumed := resumed _ (mem_of_eq_append_cons hout) _ rfl
    rw [hout] at waits
    simp only [settle, hturn, List.mem_append, List.mem_cons] at waits ho
    rcases ho with (ho | ho) | ho
    · exact waits o (.inl ho)
    · exact hresumed o ho
    · exact waits o (.inr (.inr ho))
  | clear => exact waits o ho
  | move => exact waits o ho

/-- A step leaves every call that is out sound, and makes sound calls only. -/
theorem Step.sound (step : Step moves log.length s deed s') (hr : s.cache.store.Reporting)
    (h : ∀ o ∈ s.outstanding, o.Sound s.cache log) :
    ∀ o ∈ s'.outstanding, o.Sound s'.cache (log ++ [⟨s, deed⟩]) := by
  have hi := step.identity hr
  have old (o : Outstanding) (ho : o ∈ s.outstanding) := (h o ho).snoc hi ⟨s, deed⟩
  refine step.forall_outstanding old ?_ ?_ ?_ ?_
  · intro o ho _ hout generation hnotes
    exact ((h o ho).note hout hnotes).congr hi
  · intro o ho _ outcome hanswers
    exact ((h o ho).answer hanswers).congr hi
  · intro kind operation turn hturn hdeed o ho
    obtain ⟨fetch, hstart⟩ := Cache.starts hturn hr
    have hcalled := Outstanding.called_of_opened hstart.opened _ o ho
    obtain ⟨verb, call, pending, -, rfl⟩ := Progress.eq_of_mem_outstanding ho
    refine ⟨hcalled.fits.congr hi, ?_, ?_, nofun, nofun⟩
    · exact ⟨_, _, _, List.getElem?_concat_length, hdeed⟩
    · intro f g hf hg
      obtain rfl : fetch = f := Option.some.inj (hcalled.fetch_eq f hf)
      have hc := hstart.checked
      rw [hg] at hc
      refine ⟨_, List.getElem?_concat_length, ?_⟩
      rw [hdeed]
      exact hc.found
  · rintro ⟨operation, since, call, pending, noted, found⟩ ho
    dsimp only
    rintro outcome rfl o' ho'
    have hcalled := (h _ ho).fits.called_of_resume o' ho'
    obtain ⟨verb, call', pending', -, rfl⟩ := Progress.eq_of_mem_outstanding ho'
    exact ⟨hcalled.fits.congr hi, (old _ ho).began,
      fun f g hf ↦ (old _ ho).recorded f g (hcalled.fetch_eq f hf), nofun, nofun⟩

/-- Every call that is out is sound at every moment of a run. -/
theorem Run.sound (run : Run moves start log s) (fresh : start.Fresh) :
    ∀ o ∈ s.outstanding, o.Sound s.cache log := by
  induction run with
  | nil =>
    intro o ho
    rw [fresh.outstanding] at ho
    exact absurd ho List.not_mem_nil
  | snoc run step ih => exact step.sound (run.reporting fresh) ih

end Overlap

end SettingsCache
