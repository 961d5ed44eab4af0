import SettingsCache.Proofs.Overlap.Outstanding

/-!
# What an operation deals with the provider

The log of a run tells which calls each operation made, and what it heard of them. An operation has
one call out at most, and once it has ended it makes no more. What a step means for a call that is
out is its `Fate`: the call waits, or a generation is noted for it, or it is answered, or its
operation goes on.
-/

namespace SettingsCache

/-- A call that an operation makes, or what it hears of one. -/
inductive Dealing where
  | made {verb : Verb} (call : Call verb)
  | heard {verb : Verb} (outcome : verb.Outcome)

/-- The call that an operation makes after a turn. -/
def Progress.dealings {kind : Kind} : Progress kind → List Dealing
  | .done _ => []
  | .calling call _ => [.made call]

namespace Deed

/-- What is dealt at a moment by the operation that began at another. -/
def dealings (now since : Nat) : Deed → List Dealing
  | .began _ _ turn => if now = since then turn.result.dealings else []
  | .resumed _ start _ outcome turn =>
    if start = since then .heard outcome :: turn.result.dealings else []
  | .noted _ _ | .answered _ _ | .cleared _ | .moved => []

/-- The deed of a moment is no turn of the operation that began at another. -/
def Passes (now since : Nat) : Deed → Prop
  | .began _ _ _ => now ≠ since
  | .resumed _ start _ _ _ => start ≠ since
  | .noted _ _ | .answered _ _ | .cleared _ | .moved => True

variable {now since : Nat} {deed : Deed}

theorem Passes.dealings_eq (h : deed.Passes now since) : deed.dealings now since = [] := by
  cases deed with
  | began | resumed => exact if_neg h
  | noted | answered | cleared | moved => rfl

/-- A deed ends at most one operation, with one answer. -/
theorem Ends.unique {kind : Kind} {operation operation' : Operation kind}
    {answer answer' : kind.Answer} (h : deed.Ends now operation since answer)
    (h' : deed.Ends now operation' since answer') : answer = answer' := by
  cases h with
  | atOnce hresult =>
    cases h' with
    | atOnce hresult' => exact Progress.done.inj (hresult.symm.trans hresult')
  | afterCall hresult =>
    cases h' with
    | afterCall hresult' => exact Progress.done.inj (hresult.symm.trans hresult')

end Deed

/-- An operation leaves one call out at most, and that is its own. -/
theorem Progress.sinces_sublist {kind : Kind} (operation : Operation kind) (since : Nat)
    (progress : Progress kind) :
    ((progress.outstanding operation since).map Outstanding.since).Sublist [since] := by
  cases progress with
  | done => exact List.nil_sublist _
  | calling => exact List.Sublist.refl _

namespace Overlap

variable {σ : Type} {now : Nat} {s s' start : Overlap σ} {log : List (Moment σ)}

/-- What the operation that began at a moment has dealt by now. -/
def dealings (log : List (Moment σ)) (since : Nat) : List Dealing :=
  log.zipIdx.flatMap fun entry ↦ entry.1.deed.dealings entry.2 since

@[simp] theorem dealings_snoc (log : List (Moment σ)) (m : Moment σ) (since : Nat) :
    dealings (log ++ [m]) since = dealings log since ++ m.deed.dealings log.length since := by
  simp [dealings, List.zipIdx_append]

/-- An operation that began at a moment has ended by now, with an answer. -/
def Ended (log : List (Moment σ)) {kind : Kind} (operation : Operation kind) (since : Nat)
    (answer : kind.Answer) : Prop :=
  ∃ (n : Nat) (m : Moment σ), log[n]? = some m ∧ m.deed.Ends n operation since answer

/-- The provider has answered a call after a moment, at the generation that it had noted for the
call since then if it had noted one. -/
def AnsweredSince [Provider σ] (log : List (Moment σ)) (since : Nat) {verb : Verb}
    (call : Call verb) (outcome : verb.Outcome) : Prop :=
  ∃ (n : Nat) (m : Moment σ) (noted : Option Generation), since < n ∧ log[n]? = some m ∧
    NotedBetween log since n call noted ∧ m.Answers call noted outcome

/-- The moments at which the operations began whose calls are out. -/
def sinces (s : Overlap σ) : List Nat := s.outstanding.map (·.since)

theorem since_mem_sinces {o : Outstanding} (h : o ∈ s.outstanding) :
    o.since ∈ s.sinces := List.mem_map_of_mem h

/-- A place of a log that has grown is a place of the log before, or the new one. -/
theorem getElem?_snoc {m m' : Moment σ} {n : Nat}
    (h : (log ++ [m])[n]? = some m') : log[n]? = some m' ∨ (n = log.length ∧ m' = m) := by
  rw [List.getElem?_append] at h
  split at h
  · exact .inl h
  · next hn =>
    obtain ⟨hlt, hm⟩ := List.getElem?_eq_some_iff.mp h
    obtain rfl : n = log.length := by
      rw [List.length_singleton] at hlt
      omega
    simp only [Nat.sub_self, List.getElem_cons_zero] at hm
    exact .inr ⟨rfl, hm.symm⟩

theorem Ended.snoc {kind : Kind} {operation : Operation kind} {since : Nat}
    {answer : kind.Answer} (h : Ended log operation since answer) (m : Moment σ) :
    Ended (log ++ [m]) operation since answer := by
  obtain ⟨n, m', hm', hends⟩ := h
  exact ⟨n, m', getElem?_append_of_some hm' [m], hends⟩

/-- An operation that goes on hears what its call came to, and makes what its turn makes. -/
theorem dealings_resumed {m : Moment σ} {verb : Verb} {kind : Kind} {operation : Operation kind}
    {since : Nat} {pending : Pending verb kind} {outcome : verb.Outcome}
    {turn : Turn (Progress kind)}
    (hdeed : m.deed = .resumed operation since pending outcome turn) :
    dealings (log ++ [m]) since =
      dealings log since ++ .heard outcome :: turn.result.dealings := by
  rw [dealings_snoc, hdeed, Deed.dealings, if_pos rfl]

theorem Ended.of_resumed {m : Moment σ} {verb : Verb} {kind : Kind} {operation : Operation kind}
    {since : Nat} {pending : Pending verb kind} {outcome : verb.Outcome}
    {turn : Turn (Progress kind)} {answer : kind.Answer}
    (hdeed : m.deed = .resumed operation since pending outcome turn)
    (hdone : turn.result = .done answer) : Ended (log ++ [m]) operation since answer := by
  refine ⟨log.length, m, List.getElem?_concat_length, ?_⟩
  rw [hdeed]
  exact .afterCall hdone

/-- What has ended by now had ended before, or ends now. -/
theorem ended_snoc {m : Moment σ} {kind : Kind}
    {operation : Operation kind} {since : Nat} {answer : kind.Answer}
    (h : Ended (log ++ [m]) operation since answer) :
    Ended log operation since answer ∨ m.deed.Ends log.length operation since answer := by
  obtain ⟨n, m', hm', hends⟩ := h
  rcases getElem?_snoc hm' with hm' | ⟨rfl, rfl⟩
  · exact .inl ⟨n, m', hm', hends⟩
  · exact .inr hends

/-- The calls that are out are of operations that began before, one of each. -/
structure Distinct (now : Nat) (s : Overlap σ) : Prop where
  past : ∀ since ∈ s.sinces, since < now
  nodup : s.sinces.Nodup

/-- The calls that are out before and after one of them are of other operations. -/
theorem Distinct.apart (h : Distinct now s) {before after : List Outstanding} {o : Outstanding}
    (hout : s.outstanding = before ++ o :: after) :
    o.since ∉ (before ++ after).map Outstanding.since := by
  have hnodup := h.nodup
  rw [sinces, hout, List.map_append, List.map_cons] at hnodup
  obtain ⟨-, hrest, hbefore⟩ := List.nodup_append.mp hnodup
  rw [List.map_append, List.mem_append]
  rintro (hmem | hmem)
  · exact hbefore _ hmem _ (List.mem_cons_self ..) rfl
  · exact (List.nodup_cons.mp hrest).1 hmem

variable [Provider σ] {moves : σ → σ → Prop} {deed : Deed}

theorem AnsweredSince.append {since : Nat} {verb : Verb} {call : Call verb}
    {outcome : verb.Outcome} (h : AnsweredSince log since call outcome)
    (later : List (Moment σ)) : AnsweredSince (log ++ later) since call outcome := by
  obtain ⟨n, m, noted, hlt, hm, hnoted, hanswers⟩ := h
  exact ⟨n, m, noted, hlt, getElem?_append_of_some hm later, hnoted.append later, hanswers⟩

theorem AnsweredSince.of_answers {m : Moment σ} {since : Nat} {verb : Verb} {call : Call verb}
    {noted : Option Generation} {outcome : verb.Outcome} (hlt : since < log.length)
    (hnoted : NotedBetween log since log.length call noted) (h : m.Answers call noted outcome) :
    AnsweredSince (log ++ [m]) since call outcome :=
  ⟨log.length, m, noted, hlt, List.getElem?_concat_length, hnoted.append [m], h⟩

/-- A note for a call passes every operation by, as does its answer. -/
theorem passes_of_notes {since : Nat} {verb : Verb} {call : Call verb} {generation : Generation}
    (h : Moment.Notes ⟨s, deed⟩ call generation) : deed.Passes now since := by
  obtain ⟨rfl, -⟩ := h
  trivial

theorem passes_of_answers {since : Nat} {verb : Verb} {call : Call verb}
    {noted : Option Generation} {outcome : verb.Outcome}
    (h : Moment.Answers ⟨s, deed⟩ call noted outcome) : deed.Passes now since := by
  obtain ⟨rfl, -⟩ := h
  trivial

/-- A step leaves calls out of operations that had one out, or of the one that has just begun. -/
theorem Step.sinces_sublist (step : Step moves now s deed s') :
    s'.sinces.Sublist (s.sinces ++ [now]) := by
  cases step with
  | begin operation hturn =>
    simp only [sinces, settle, List.map_append]
    exact (List.Sublist.refl _).append (Progress.sinces_sublist ..)
  | note hout | answer hout =>
    simp only [sinces, hout, List.map_append, List.map_cons, List.append_assoc]
    exact (List.Sublist.refl _).append ((List.sublist_append_left ..).cons_cons _)
  | @resume _ _ operation since call pending noted outcome turn before after hout =>
    have hnew := Progress.sinces_sublist operation since turn.result
    simp only [sinces, hout, settle, List.map_append, List.map_cons, List.append_assoc]
    apply (List.Sublist.refl _).append
    exact (hnew.append (List.sublist_append_left ..))
  | clear | move => exact List.sublist_append_left ..

/-- One operation has one call out at a time. -/
theorem Distinct.step (h : Distinct now s) (step : Step moves now s deed s') :
    Distinct (now + 1) s' where
  past since hmem := by
    rcases List.mem_append.mp (step.sinces_sublist.subset hmem) with hold | hnew
    · exact Nat.lt_succ_of_lt (h.past since hold)
    · rw [List.mem_singleton.mp hnew]
      exact Nat.lt_succ_self now
  nodup := by
    refine step.sinces_sublist.nodup (List.nodup_append.mpr ⟨h.nodup, by simp, ?_⟩)
    intro since hmem other hother
    rw [List.mem_singleton.mp hother]
    exact Nat.ne_of_lt (h.past since hmem)

/-- A step passes an operation by that does not begin now and has no call out. -/
theorem Step.passes (step : Step moves now s deed s') {since : Nat} (hne : now ≠ since)
    (hnot : since ∉ s.sinces) : deed.Passes now since := by
  cases step with
  | begin => exact hne
  | resume hout =>
    intro heq
    exact hnot (heq ▸ since_mem_sinces (mem_of_eq_append_cons hout))
  | note | answer | clear | move => trivial

/-- A deed ends an operation that begins now, or one that had a call out, and no call of it is out
afterwards. -/
theorem Distinct.of_ends (h : Distinct now s) (step : Step moves now s deed s') {kind : Kind}
    {operation : Operation kind} {since : Nat} {answer : kind.Answer}
    (hends : deed.Ends now operation since answer) :
    (since = now ∨ since ∈ s.sinces) ∧ since ∉ s'.sinces := by
  cases hends with
  | atOnce hresult =>
    cases step with
    | begin operation hturn =>
      refine ⟨.inl rfl, ?_⟩
      rw [sinces, settle, hresult, Progress.outstanding, List.append_nil]
      exact fun hmem ↦ Nat.lt_irrefl now (h.past now hmem)
  | afterCall hresult =>
    cases step with
    | resume hout hturn =>
      refine ⟨.inr (List.mem_map_of_mem (mem_of_eq_append_cons hout)), ?_⟩
      rw [sinces, settle, hresult, Progress.outstanding, List.append_nil]
      exact h.apart hout

/-- At every moment of a run that began with no call out, one operation has one call out at most. -/
theorem Run.distinct (run : Run moves start log s) (hidle : start.outstanding = []) :
    Distinct log.length s := by
  induction run with
  | nil =>
    have hnone : start.sinces = [] := congrArg (List.map _) hidle
    constructor
    · rw [hnone]
      exact fun since hmem ↦ absurd hmem List.not_mem_nil
    · rw [hnone]
      exact List.nodup_nil
  | snoc run step ih =>
    rw [List.length_append, List.length_singleton]
    exact ih.step step

/-- An operation that has not begun has dealt nothing. -/
theorem Run.dealings_eq_nil (run : Run moves start log s) (hidle : start.outstanding = [])
    {since : Nat} (h : log.length ≤ since) : dealings log since = [] := by
  induction run with
  | nil => rfl
  | @snoc log s s' deed run step ih =>
    rw [List.length_append, List.length_singleton] at h
    have hnot : since ∉ s.sinces := fun hmem ↦
      Nat.lt_asymm h ((run.distinct hidle).past since hmem)
    rw [dealings_snoc, ih (Nat.le_of_lt h), (step.passes (Nat.ne_of_lt h) hnot).dealings_eq]
    rfl

/-- An operation that has ended began before and has no call out. -/
theorem Run.over (run : Run moves start log s) (hidle : start.outstanding = []) {kind : Kind}
    {operation : Operation kind} {since : Nat} {answer : kind.Answer}
    (hended : Ended log operation since answer) : since < log.length ∧ since ∉ s.sinces := by
  induction run with
  | nil =>
    obtain ⟨n, m, hm, -⟩ := hended
    exact absurd hm (by simp)
  | @snoc log s s' deed run step ih =>
    have hdistinct := run.distinct hidle
    rw [List.length_append, List.length_singleton]
    rcases ended_snoc hended with hended | hends
    · obtain ⟨hlt, hnot⟩ := ih hended
      refine ⟨Nat.lt_succ_of_lt hlt, fun hmem ↦ ?_⟩
      rcases List.mem_append.mp (step.sinces_sublist.subset hmem) with hold | hnew
      · exact hnot hold
      · exact Nat.ne_of_lt hlt (List.mem_singleton.mp hnew)
    · obtain ⟨hsince, hnot⟩ := hdistinct.of_ends step hends
      refine ⟨?_, hnot⟩
      rcases hsince with rfl | hold
      · exact Nat.lt_succ_self _
      · exact Nat.lt_succ_of_lt (hdistinct.past since hold)

/-- No operation ends twice. -/
theorem Run.ends_once (run : Run moves start log s) (hidle : start.outstanding = []) {kind : Kind}
    {operation operation' : Operation kind} {since : Nat} {answer answer' : kind.Answer}
    (h : Ended log operation since answer) (h' : Ended log operation' since answer') :
    answer = answer' := by
  induction run with
  | nil =>
    obtain ⟨n, m, hm, -⟩ := h
    exact absurd hm (by simp)
  | @snoc log s s' deed run step ih =>
    -- What ended before does not end now.
    have hapart {operation operation' : Operation kind} {answer answer' : kind.Answer}
        (hold : Ended log operation since answer)
        (hnow : deed.Ends log.length operation' since answer') : False := by
      obtain ⟨hlt, hnot⟩ := run.over hidle hold
      rcases (run.distinct hidle).of_ends step hnow with ⟨rfl | hmem, -⟩
      · exact Nat.lt_irrefl _ hlt
      · exact hnot hmem
    rcases ended_snoc h with h | h <;> rcases ended_snoc h' with h' | h'
    · exact ih h h'
    · exact (hapart h h').elim
    · exact (hapart h' h).elim
    · exact h.unique h'

end Overlap

/-- What a step means for a call that is out. -/
inductive Outstanding.Fate {σ : Type} [Provider σ] (now : Nat) (s : Overlap σ) (deed : Deed)
    (s' : Overlap σ) (o : Outstanding) : Prop
  /-- The call waits. -/
  | waits (hout : o ∈ s'.outstanding) (hpasses : deed.Passes now o.since)
  /-- The provider notes a generation for the call. -/
  | noted {generation : Generation}
      (hnotes : Moment.Notes ⟨s, deed⟩ o.call generation)
      (hout : { o with noted := some generation } ∈ s'.outstanding)
  /-- The provider answers the call. -/
  | answered {outcome : o.verb.Outcome}
      (hanswers : Moment.Answers ⟨s, deed⟩ o.call o.noted outcome)
      (hout : { o with outcome := some outcome } ∈ s'.outstanding)
  /-- The operation goes on with what the call came to. -/
  | resumed {outcome : o.verb.Outcome} {turn : Turn (Progress o.kind)}
      (houtcome : o.outcome = some outcome)
      (hdeed : deed = .resumed o.operation o.since o.pending outcome turn)
      (hturn : turn = s.cache.resume o.pending outcome)
      (hout : ∀ o' ∈ turn.result.outstanding o.operation o.since, o' ∈ s'.outstanding)

namespace Overlap

variable {σ : Type} [Provider σ] {moves : σ → σ → Prop} {now : Nat} {deed : Deed}
  {s s' : Overlap σ}

/-- A step means one of these for every call that is out. -/
theorem Distinct.fate (h : Distinct now s) (step : Step moves now s deed s') {o : Outstanding}
    (ho : o ∈ s.outstanding) : o.Fate now s deed s' := by
  have hpast := h.past o.since (since_mem_sinces ho)
  cases step with
  | begin operation hturn =>
    exact .waits (List.mem_append_left _ ho) (Nat.ne_of_gt hpast)
  | note hout hnote =>
    rw [hout] at ho
    rcases List.mem_append.mp ho with hbefore | hrest
    · exact .waits (List.mem_append_left _ hbefore) trivial
    · rcases List.mem_cons.mp hrest with rfl | hafter
      · exact .noted ⟨rfl, _, hnote⟩ (List.mem_append_right _ (List.mem_cons_self ..))
      · exact .waits (List.mem_append_right _ (List.mem_cons_of_mem _ hafter)) trivial
  | answer hout hanswer =>
    rw [hout] at ho
    rcases List.mem_append.mp ho with hbefore | hrest
    · exact .waits (List.mem_append_left _ hbefore) trivial
    · rcases List.mem_cons.mp hrest with rfl | hafter
      · exact .answered ⟨rfl, hanswer.symm⟩ (List.mem_append_right _ (List.mem_cons_self ..))
      · exact .waits (List.mem_append_right _ (List.mem_cons_of_mem _ hafter)) trivial
  | @resume _ _ operation since call pending noted outcome turn before after hout hturn =>
    have hapart := h.apart hout
    rw [hout] at ho
    simp only [settle]
    by_cases hself : o = ⟨operation, since, call, pending, noted, some outcome⟩
    · subst hself
      refine .resumed rfl rfl hturn fun o' ho' ↦ ?_
      exact List.mem_append_left _ (List.mem_append_right _ ho')
    · have hother : o ∈ before ++ after := by
        simp only [List.mem_append, List.mem_cons, hself, false_or] at ho ⊢
        exact ho
      have hsince : o.since ∈ (before ++ after).map Outstanding.since := List.mem_map_of_mem hother
      refine .waits ?_ fun heq ↦ hapart (heq ▸ hsince)
      simp only [List.mem_append] at hother ⊢
      exact hother.elim (fun hbefore ↦ .inl (.inl hbefore)) .inr
  | clear => exact .waits ho trivial
  | move => exact .waits ho trivial

end Overlap

end SettingsCache
