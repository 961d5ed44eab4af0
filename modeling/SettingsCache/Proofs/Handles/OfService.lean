import SettingsCache.Proofs.Handles.Custody
import SettingsCache.Proofs.Service.Answers

/-!
# The custody of the service

The service keeps a list of the handles that it has handed over, with a note of whether each is
closed. Nothing that is done to the service takes a handle off the list or opens one again.
-/

namespace SettingsCache.Service

/-- The service numbers its handles from zero and notes of each whether it is closed. -/
def custody : Custody Service where
  opened s h := h < s.block.closed.size
  closed s h := s.block.closed[h]? = some true

theorem closed_handOverIf (s : Service) (track : Bool) (ns : Namespace) (g : Generation) :
    (s.handOverIf track ns g).2.block.closed =
      if (s.handOverIf track ns g).1.isSome then s.block.closed.push false
      else s.block.closed := by
  unfold handOverIf handOver
  split
  · split <;> rfl
  · rfl

/-- A call opens a handle if it hands one over. -/
theorem closed_serve (s : Service) (ns : Namespace) {verb : Verb} (call : Call verb) :
    (s.serve ns call).2.block.closed =
      if (verb.handOver? (s.serve ns call).1).isSome then s.block.closed.push false
      else s.block.closed := by
  cases call with
  | get request =>
    dsimp only [serve, get]
    split
    · rfl
    · split
      · rfl
      · split
        · rfl
        · exact closed_handOverIf ..
  | put request =>
    dsimp only [serve, put]
    split <;> rfl
  | query name user =>
    dsimp only [serve, query]
    split <;> rfl
  | list request =>
    dsimp only [serve, list]
    split
    · rfl
    · exact closed_handOverIf ..
  | reset request =>
    dsimp only [serve, reset]
    split <;> rfl

/-- So does an answer, whatever was noted for it. -/
theorem closed_answer (s : Service) (ns : Namespace) {verb : Verb} (call : Call verb)
    (noted : Option Generation) :
    (Provider.answer s ns call noted).2.block.closed =
      if (verb.handOver? (Provider.answer s ns call noted).1).isSome then
        s.block.closed.push false
      else s.block.closed := by
  cases noted with
  | none => exact closed_serve s ns call
  | some generation =>
    cases call with
    | get request => exact closed_handOverIf s request.track ns generation
    | list request => exact closed_handOverIf s request.track ns generation
    | put request => exact closed_serve s ns (.put request)
    | query name user => exact closed_serve s ns (.query name user)
    | reset request => exact closed_serve s ns (.reset request)

theorem keeps_of_closed_eq {s s' : Service} (h : s'.block.closed = s.block.closed) :
    custody.Keeps s s' := by
  refine ⟨fun handle ho ↦ ?_, fun handle hc ↦ ?_⟩
  · change handle < s'.block.closed.size
    rw [h]
    exact ho
  · change s'.block.closed[handle]? = some true
    rw [h]
    exact hc

theorem keeps_answer (s : Service) (ns : Namespace) {verb : Verb} (call : Call verb)
    (noted : Option Generation) : custody.Keeps s (Provider.answer s ns call noted).2 := by
  have hclosed := closed_answer s ns call noted
  split at hclosed
  · refine ⟨fun handle ho ↦ ?_, fun handle hc ↦ ?_⟩
    · change handle < (Provider.answer s ns call noted).2.block.closed.size
      rw [hclosed, Array.size_push]
      exact Nat.lt_succ_of_lt ho
    · change (Provider.answer s ns call noted).2.block.closed[handle]? = some true
      obtain ⟨hlt, -⟩ := Array.getElem?_eq_some_iff.mp hc
      rw [hclosed, Array.getElem?_push_lt hlt]
      exact (Array.getElem?_eq_getElem hlt).symm.trans hc
  · exact keeps_of_closed_eq hclosed

theorem keeps_access (s : Service) (access : Access) : custody.Keeps s (s.access access) := by
  cases access with
  | read => exact keeps_of_closed_eq rfl
  | close h =>
    refine ⟨fun handle ho ↦ ?_, fun handle hc ↦ ?_⟩
    · exact Nat.lt_of_lt_of_eq ho Array.size_setIfInBounds.symm
    · change (s.block.closed.setIfInBounds h true)[handle]? = some true
      obtain ⟨hlt, -⟩ := Array.getElem?_eq_some_iff.mp hc
      rw [Array.getElem?_setIfInBounds]
      split
      · next heq => rw [heq, if_pos hlt]
      · exact hc

theorem handsOver_answer {s : Service} {ns : Namespace} {verb : Verb} {call : Call verb}
    (noted : Option Generation) {handOver : HandOver}
    (h : verb.handOver? (Provider.answer s ns call noted).1 = some handOver) :
    s.HandsOver ns (noted.getD (s.generation ns)) handOver := by
  cases call with
  | get request =>
    rcases hanswer : (Provider.answer s ns (.get request) noted).1 with e | _ | reply
    · rw [hanswer] at h
      cases h
    · rw [hanswer] at h
      cases h
    · rw [hanswer] at h
      exact (get_reply noted hanswer).2 handOver h
  | list request =>
    rcases hanswer : (Provider.answer s ns (.list request) noted).1 with e | reply
    · rw [hanswer] at h
      cases h
    · rw [hanswer] at h
      exact (list_reply noted hanswer).2 handOver h
  | put | query | reset => cases h

theorem handsOver_serve {s : Service} {ns : Namespace} {verb : Verb} {call : Call verb}
    {handOver : HandOver} (h : verb.handOver? (s.serve ns call).1 = some handOver) :
    s.HandsOver ns (s.generation ns) handOver :=
  handsOver_answer none h

/-- Whatever is done to it, the service hands over new handles only and closes handles for good. -/
theorem lawful_custody (allowed : Scenario.ServiceStep → Prop) :
    custody.Lawful (Moves allowed) where
  note_keeps s ns verb call generation s' hnote := by
    obtain ⟨rfl, -⟩ := note?_eq hnote
    cases call <;> exact keeps_of_closed_eq rfl
  answer_keeps s ns _ call noted := keeps_answer s ns call noted
  access_keeps := keeps_access
  move_keeps s s' hmove := by
    cases hmove with
    | step step =>
      cases step with
      | closeHandle place =>
        dsimp only [Scenario.ServiceStep.run]
        split
        · exact keeps_access s (.close _)
        · exact .refl s
      | call ns call => exact keeps_answer s ns call none
      | _ => exact keeps_of_closed_eq rfl
    | access access => exact keeps_access s access
  fresh s ns verb call noted handOver hh := by
    have hclosed := closed_answer s ns call noted
    rw [hh, Option.isSome_some, if_pos rfl] at hclosed
    change ¬ handOver.handle < s.block.closed.size ∧
      handOver.handle < (Provider.answer s ns call noted).2.block.closed.size
    rw [hclosed, Array.size_push, (handsOver_answer noted hh).handle]
    exact ⟨Nat.lt_irrefl _, Nat.lt_succ_self _⟩
  close s h ho := by
    change (s.block.closed.setIfInBounds h true)[h]? = some true
    rw [Array.getElem?_setIfInBounds_self_of_lt ho]

end SettingsCache.Service
