import SettingsCache.Proofs.Handles.OfService
import SettingsCache.Proofs.Overlap.Effect
import SettingsCache.Proofs.Overlap.Schedule

/-!
# Where handles go

A handle comes to a cache with a reply and leaves it by being closed. In between it is carried by
the reply, until the read that asked for it goes on, or it is owned by the tracker. Each delivery is
accounted for in this way, so none is lost and none is closed twice.
-/

namespace SettingsCache

/-! ## Where handles are -/

/-- The handle of a hand-over, if there is one. -/
def HandOver.handles (handOver : Option HandOver) : List Handle :=
  handOver.toList.map HandOver.handle

/-- The handle that the tracker owns, if there is a tracker. -/
def Store.owned (s : Store) : List Handle := s.tracker.toList.map Tracker.handle

/-- The handle that an answered call carries until its operation goes on. -/
def Outstanding.carried (o : Outstanding) : List Handle :=
  HandOver.handles (o.outcome.bind o.verb.handOver?)

/-- A read that has been given a reply and has not gone on yet. -/
def Outstanding.replied (o : Outstanding) : Bool :=
  o.kind != .write && o.outcome.any Except.isOk

namespace Deed

/-- The handles that reach the cache by the deed of a moment. -/
def delivered : Deed → List Handle
  | @answered verb _ outcome => HandOver.handles (verb.handOver? outcome)
  | .began _ _ _ | .noted _ _ | .resumed _ _ _ _ _ | .cleared _ | .moved => []

/-- The handles that the cache closes by the deed of a moment. -/
def closed (deed : Deed) : List Handle := deed.accesses.filterMap Access.closed?

end Deed

namespace Overlap

variable {σ : Type}

/-- The handles that have reached the cache, each as often as it did. -/
def delivered (log : List (Moment σ)) : List Handle := log.flatMap (·.deed.delivered)

/-- The handles that the cache has closed, each as often as it did. -/
def closed (log : List (Moment σ)) : List Handle := log.flatMap (·.deed.closed)

theorem delivered_snoc (log : List (Moment σ)) (s : Overlap σ) (deed : Deed) :
    delivered (log ++ [⟨s, deed⟩]) = delivered log ++ deed.delivered := by
  unfold delivered
  rw [List.flatMap_append, List.flatMap_singleton]

theorem closed_snoc (log : List (Moment σ)) (s : Overlap σ) (deed : Deed) :
    closed (log ++ [⟨s, deed⟩]) = closed log ++ deed.closed := by
  unfold closed
  rw [List.flatMap_append, List.flatMap_singleton]

/-- The number of replies whose reads have not gone on yet. -/
def uncompleted (s : Overlap σ) : Nat := s.outstanding.countP Outstanding.replied

/-- No read is on its way. -/
def NoReads (s : Overlap σ) : Prop := ∀ o ∈ s.outstanding, o.kind = .write

/-- The handles of the replies that are not completed yet. -/
def carried (s : Overlap σ) : List Handle := s.outstanding.flatMap Outstanding.carried

/-- A call carries a handle only if it is a read that has been given a reply. -/
theorem length_carried_le (outstanding : List Outstanding) :
    (outstanding.flatMap Outstanding.carried).length ≤ outstanding.countP Outstanding.replied := by
  induction outstanding with
  | nil => exact Nat.le_refl 0
  | cons o rest ih =>
    have hone : o.carried.length ≤ if o.replied then 1 else 0 := by
      obtain ⟨operation, since, call, pending, noted, outcome⟩ := o
      rcases outcome with _ | e | reply
      · exact Nat.zero_le _
      · cases pending <;> exact Nat.zero_le _
      · cases pending with
        | get | list =>
          unfold Outstanding.carried HandOver.handles
          rw [List.length_map]
          exact Option.length_toList_le
        | query | put | reset => exact Nat.zero_le _
    rw [List.flatMap_cons, List.length_append, List.countP_cons]
    omega

/-- While no read is on its way, no reply carries a handle. -/
theorem carried_of_noReads {s : Overlap σ} (h : s.NoReads) : s.carried = [] := by
  have hzero : s.uncompleted = 0 := by
    apply List.countP_eq_zero.mpr
    intro o ho
    rw [Outstanding.replied, h o ho]
    exact Bool.false_ne_true
  have hle := length_carried_le s.outstanding
  exact List.eq_nil_of_length_eq_zero (Nat.le_zero.mp (hzero ▸ hle))

end Overlap

/-! ## One turn -/

/-- A check closes the handle of the tracker if it gives the tracker up. -/
theorem Checked.owned_eq {caching : Bool} {view : BlockView} {s s' : Store}
    {accesses : List Access} {g : Option Generation} (h : Checked caching view s s' accesses g) :
    s.owned = accesses.filterMap Access.closed? ++ s'.owned := by
  cases h with
  | skipped => rfl
  | lost _ ht | moved _ ht | steady _ ht =>
    rw [Store.owned, ht]
    rfl

@[simp] theorem Store.owned_keep (s : Store) (finding : Finding) :
    (s.keep finding).owned = s.owned := by rw [owned, tracker_keep, owned]

theorem Store.mem_owned {s : Store} {h : Handle} :
    h ∈ s.owned ↔ s.tracker.map Tracker.handle = some h := by
  unfold owned
  cases s.tracker <;> simp [eq_comm]

theorem Store.handle_mem_owned {s : Store} {t : Tracker} (h : s.tracker = some t) :
    t.handle ∈ s.owned := mem_owned.mpr (congrArg (Option.map Tracker.handle) h)

theorem Store.owned_of_untracked {s : Store} (h : s.tracker = none) : s.owned = [] := by
  rw [owned, h]
  rfl

theorem Completion.closed_release (k : Completion) :
    k.release.filterMap Access.closed? = HandOver.handles k.handOver := by
  unfold release
  cases k.handOver <;> rfl

theorem Store.closed_release (s : Store) : s.release.filterMap Access.closed? = s.owned := by
  unfold release owned
  cases s.tracker <;> rfl

/-- A completion closes the handle that was handed over, or that of the tracker if the one handed
over takes its place. -/
theorem Completed.count_owned {k : Completion} {s s' : Store} {accesses : List Access}
    {told : Option Generation} (h : Completed k s s' accesses told) (handle : Handle) :
    (HandOver.handles k.handOver).count handle + s.owned.count handle =
      (accesses.filterMap Access.closed?).count handle + s'.owned.count handle := by
  cases h with
  | foreign | late => rw [k.closed_release]
  | kept => rw [k.closed_release, Store.owned_keep]
  | @adopted t hc ht =>
    have hnew : HandOver.handles k.handOver = [t.handle] := by
      obtain ⟨handOver, hhandOver, h⟩ := Option.bind_eq_some_iff.mp ht
      obtain ⟨slot, -, rfl⟩ := Option.map_eq_some_iff.mp h
      rw [hhandOver]
      rfl
    rw [Store.owned_keep, s.closed_release, hnew, Nat.add_comm]
    rfl

/-- What completes a read brings the hand-over of the outcome. -/
theorem Pending.handOver_of_completion? {verb : Verb} {kind : Kind} {pending : Pending verb kind}
    {outcome : verb.Outcome} {k : Completion} (h : pending.completion? outcome = some k) :
    verb.handOver? outcome = k.handOver := by
  cases Pending.completes h <;> rfl

/-- What completes no read brings no hand-over. -/
theorem Pending.handOver_of_none {verb : Verb} {kind : Kind} {pending : Pending verb kind}
    {outcome : verb.Outcome} (h : pending.completion? outcome = none) :
    verb.handOver? outcome = none := by
  cases pending <;> rcases outcome with e | reply
  case get.ok =>
    rcases reply with _ | reply
    · rfl
    · cases h
  case query.ok | list.ok => cases h
  all_goals rfl

/-- A first turn closes the handle of the tracker if it gives the tracker up. -/
theorem Cache.Starts.count_owned {c : Cache} {view : BlockView} {kind : Kind}
    {operation : Operation kind} {turn : Turn (Progress kind)} {fetch : Fetch}
    (hstart : c.Starts view operation turn fetch) (h : Handle) :
    c.store.owned.count h =
      (turn.accesses.filterMap Access.closed?).count h + turn.cache.store.owned.count h := by
  rw [hstart.checked.owned_eq, List.count_append]

/-- A later turn closes the handle that the call has brought, or it closes the handle of the tracker
and keeps the one that the call has brought. -/
theorem Resumed.count_owned {c : Cache} {verb : Verb} {kind : Kind} {pending : Pending verb kind}
    {outcome : verb.Outcome} {turn : Turn (Progress kind)} (hturn : Resumed c pending outcome turn)
    (h : Handle) :
    (HandOver.handles (verb.handOver? outcome)).count h + c.store.owned.count h =
      (turn.accesses.filterMap Access.closed?).count h + turn.cache.store.owned.count h := by
  cases hturn with
  | completed hk hcompleted =>
    rw [Pending.handOver_of_completion? hk]
    exact hcompleted.count_owned h
  | quiet hk hquiet =>
    rw [Pending.handOver_of_none hk, hquiet.store, hquiet.accesses]
    rfl

/-- A call that a turn has made carries no handle yet. -/
theorem Progress.carried_outstanding {kind : Kind} (operation : Operation kind) (since : Nat)
    (progress : Progress kind) :
    (progress.outstanding operation since).flatMap Outstanding.carried = [] := by
  cases progress <;> rfl

/-! ## Whole runs -/

namespace Overlap

theorem count_carried {σ : Type} {s : Overlap σ} {before after : List Outstanding}
    {o : Outstanding} (hout : s.outstanding = before ++ o :: after) (h : Handle) :
    s.carried.count h = (before.flatMap Outstanding.carried).count h +
      (o.carried.count h + (after.flatMap Outstanding.carried).count h) := by
  unfold carried
  rw [hout, List.flatMap_append, List.flatMap_cons, List.count_append, List.count_append]

variable {σ : Type} [Provider σ] {moves : σ → σ → Prop} {now : Nat} {deed : Deed}
  {s s' start : Overlap σ} {log : List (Moment σ)}

/-- What reaches the cache in a step, and what the cache had before, is what it closes and what it
has afterwards. -/
theorem Step.count_handles (step : Step moves now s deed s') (hr : s.cache.store.Reporting)
    (h : Handle) :
    deed.delivered.count h + s.cache.store.owned.count h + s.carried.count h =
      deed.closed.count h + s'.cache.store.owned.count h + s'.carried.count h := by
  cases step with
  | @begin _ operation turn hturn =>
    obtain ⟨fetch, hstart⟩ := Cache.starts hturn hr
    have hcarried :
        (s.settle turn (s.outstanding ++ turn.result.outstanding operation now)).carried =
          s.carried := by
      unfold carried settle
      rw [List.flatMap_append, Progress.carried_outstanding, List.append_nil]
    rw [hcarried, hstart.count_owned]
    exact Nat.add_right_cancel_iff.mpr (Nat.zero_add _)
  | note hout hnote =>
    rw [count_carried hout, count_carried rfl]
    rfl
  | @answer _ verb operation since call pending noted outcome before after hout hanswer =>
    rw [count_carried hout, count_carried rfl]
    -- The call carries nothing before it is answered, and the hand-over of its answer afterwards.
    change (HandOver.handles (verb.handOver? outcome)).count h + s.cache.store.owned.count h +
        (_ + (0 + _)) =
      0 + s.cache.store.owned.count h +
        (_ + ((HandOver.handles (verb.handOver? outcome)).count h + _))
    omega
  | @resume _ verb operation since call pending noted outcome turn before after hout hturn =>
    have howned := (Cache.resumed hturn).count_owned h
    have hcarried :
        (s.settle turn (before ++ turn.result.outstanding operation since ++ after)).carried =
          before.flatMap Outstanding.carried ++ after.flatMap Outstanding.carried := by
      unfold carried settle
      rw [List.flatMap_append, List.flatMap_append, Progress.carried_outstanding, List.append_nil]
    rw [count_carried hout, hcarried, List.count_append]
    change 0 + _ + (_ + ((HandOver.handles (verb.handOver? outcome)).count h + _)) =
      (turn.accesses.filterMap Access.closed?).count h + turn.cache.store.owned.count h + _
    omega
  | clear =>
    have hclosed : (Deed.cleared s.cache.clear).closed = s.cache.store.owned :=
      s.cache.store.closed_release
    rw [hclosed]
    change 0 + _ + _ = _ + 0 + _
    rw [Nat.zero_add, Nat.add_zero]
    rfl
  | move => rfl

/-- Every handle that has reached the cache is accounted for: the cache has closed it, or its
tracker owns it, or a reply carries it that is not completed yet. -/
theorem Run.count_handles (run : Run moves start log s) (fresh : start.Fresh) (h : Handle) :
    (delivered log).count h =
      (closed log).count h + s.cache.store.owned.count h + s.carried.count h := by
  induction run with
  | nil =>
    unfold carried
    rw [fresh.store, fresh.outstanding]
    rfl
  | @snoc log s s' deed run step ih =>
    have hstep := step.count_handles (run.reporting fresh) h
    rw [delivered_snoc, closed_snoc, List.count_append, List.count_append]
    omega

end Overlap

/-! ## Open and closed handles -/

namespace Overlap

variable {σ : Type} [Provider σ] {moves : σ → σ → Prop} {now : Nat} {deed : Deed}
  {s s' start : Overlap σ} {log : List (Moment σ)} {c : Custody σ}

theorem Step.keeps (step : Step moves now s deed s') (lawful : c.Lawful moves) :
    c.Keeps s.provider s'.provider := by
  cases step with
  | begin | resume | clear => exact lawful.accessAll_keeps ..
  | note hout hnote => exact lawful.note_keeps _ _ _ _ _ hnote
  | answer => exact lawful.answer_keeps ..
  | move hmove => exact lawful.move_keeps _ _ hmove

/-- A handle that reaches the cache is new. -/
theorem Step.fresh_delivered (step : Step moves now s deed s') (lawful : c.Lawful moves) :
    deed.delivered.Nodup ∧
      ∀ h ∈ deed.delivered, ¬ c.opened s.provider h ∧ c.opened s'.provider h := by
  cases step with
  | begin | note | resume | clear | move =>
    exact ⟨List.nodup_nil, fun h hh ↦ absurd hh List.not_mem_nil⟩
  | @answer _ verb _ _ call _ noted outcome _ _ hout hanswer =>
    subst hanswer
    change (HandOver.handles _).Nodup ∧ ∀ h ∈ HandOver.handles _, _
    cases hhandOver : verb.handOver? (Provider.answer s.provider s.cache.ns call noted).1 with
    | none => exact ⟨List.nodup_nil, fun h hh ↦ absurd hh List.not_mem_nil⟩
    | some handOver =>
      refine ⟨List.nodup_cons.mpr ⟨List.not_mem_nil, List.nodup_nil⟩, ?_⟩
      intro h hh
      obtain rfl := List.mem_singleton.mp hh
      exact lawful.fresh _ _ call noted handOver hhandOver

/-- A handle that the cache closes in a step is closed. -/
theorem Step.closed_of_mem (step : Step moves now s deed s') (lawful : c.Lawful moves) {h : Handle}
    (ho : c.opened s.provider h) (hc : h ∈ deed.closed) : c.closed s'.provider h := by
  cases step with
  | begin | resume | clear => exact lawful.accessAll_closed ho hc
  | note | answer | move => exact absurd hc List.not_mem_nil

/-- The handles that have reached the cache have been opened, and each has reached it once. -/
theorem Run.opened_of_delivered (run : Run moves start log s) (lawful : c.Lawful moves) :
    (delivered log).Nodup ∧ ∀ h ∈ delivered log, c.opened s.provider h := by
  induction run with
  | nil => exact ⟨List.nodup_nil, fun h hh ↦ absurd hh List.not_mem_nil⟩
  | @snoc log s s' deed run step ih =>
    obtain ⟨hnodup, hopened⟩ := ih
    obtain ⟨hnodup', hfresh⟩ := step.fresh_delivered lawful
    rw [delivered_snoc]
    refine ⟨List.nodup_append.mpr ⟨hnodup, hnodup', ?_⟩, ?_⟩
    · rintro h hh _ hh' rfl
      exact (hfresh h hh').1 (hopened h hh)
    · intro h hh
      rcases List.mem_append.mp hh with hh | hh
      · exact (step.keeps lawful).opened h (hopened h hh)
      · exact (hfresh h hh).2

/-- The handles that the cache has closed are closed. -/
theorem Run.closed_of_mem (run : Run moves start log s) (fresh : start.Fresh)
    (lawful : c.Lawful moves) : ∀ h ∈ closed log, c.closed s.provider h := by
  induction run with
  | nil => exact fun h hh ↦ absurd hh List.not_mem_nil
  | @snoc log s s' deed run step ih =>
    intro h hh
    rw [closed_snoc, List.mem_append] at hh
    rcases hh with hh | hh
    · exact (step.keeps lawful).closed h (ih h hh)
    · refine step.closed_of_mem lawful ?_ hh
      apply (run.opened_of_delivered lawful).2
      -- A step that closes handles delivers none, so what it closes was delivered before.
      have hnone : deed.delivered = [] := by
        cases deed with
        | answered => exact absurd hh List.not_mem_nil
        | began | noted | resumed | cleared | moved => rfl
      have hstep := step.count_handles (run.reporting fresh) h
      have hrun := run.count_handles fresh h
      have hpos := List.count_pos_iff.mpr hh
      rw [hnone, List.count_nil] at hstep
      apply List.count_pos_iff.mp
      omega

/-- The tracker's handle has been opened. -/
theorem Run.opened_of_owned (run : Run moves start log s) (fresh : start.Fresh)
    (lawful : c.Lawful moves) {h : Handle} (howned : h ∈ s.cache.store.owned) :
    c.opened s.provider h := by
  have hcount := run.count_handles fresh h
  have hpos := List.count_pos_iff.mpr howned
  apply (run.opened_of_delivered lawful).2
  apply List.count_pos_iff.mp
  omega

/-- A handle that has reached the cache is in one of the three places. -/
theorem Run.mem_of_delivered (run : Run moves start log s) (fresh : start.Fresh) {h : Handle}
    (hh : h ∈ delivered log) : h ∈ closed log ∨ h ∈ s.cache.store.owned ∨ h ∈ s.carried := by
  have hcount := run.count_handles fresh h
  have hpos := List.count_pos_iff.mpr hh
  simp only [← List.count_pos_iff]
  omega

/-- The tracker's handle has reached the cache, which has not closed it. Of the other handles that
have reached the cache, no more are open than there are replies whose reads have not gone on. While
no read is on its way, all the others are closed, and once the tracker's handle is closed as well,
as it is when the cache goes out of use, all are. -/
theorem Run.handles_kept (run : Run moves start log s) (fresh : start.Fresh)
    (lawful : c.Lawful moves) :
    (∀ t, s.cache.store.tracker = some t →
      t.handle ∈ delivered log ∧ t.handle ∉ Overlap.closed log) ∧
    (∀ handles : List Handle, handles.Nodup →
      (∀ h ∈ handles, h ∈ delivered log ∧ ¬ c.closed s.provider h ∧
        s.cache.store.tracker.map Tracker.handle ≠ some h) →
      handles.length ≤ s.uncompleted) ∧
    (s.NoReads →
      (∀ h ∈ delivered log, s.cache.store.tracker.map Tracker.handle ≠ some h →
        c.closed s.provider h) ∧
      ∀ h ∈ delivered log, c.closed (Provider.accessAll s.provider s.cache.releaseTracker) h) := by
  refine ⟨?_, ?_, ?_⟩
  · intro t ht
    have howned : 0 < s.cache.store.owned.count t.handle := by
      rw [List.count_pos_iff, Store.mem_owned, ht, Option.map_some]
    have hcount := run.count_handles fresh t.handle
    have honce := List.nodup_iff_count.mp (run.opened_of_delivered lawful).1 t.handle
    rw [← List.count_pos_iff, ← List.count_eq_zero]
    omega
  · intro handles hnodup hopen
    refine Nat.le_trans (hnodup.length_le_of_subset ?_) (length_carried_le s.outstanding)
    intro h hh
    obtain ⟨hdelivered, hnotClosed, hnotOwned⟩ := hopen h hh
    rcases run.mem_of_delivered fresh hdelivered with hclosed | howned | hcarried
    · exact absurd (run.closed_of_mem fresh lawful h hclosed) hnotClosed
    · exact absurd (Store.mem_owned.mp howned) hnotOwned
    · exact hcarried
  · intro hnone
    have hclosed : ∀ h ∈ delivered log, h ∉ s.cache.store.owned → c.closed s.provider h := by
      intro h hh hnotOwned
      rcases run.mem_of_delivered fresh hh with hclosed | howned | hcarried
      · exact run.closed_of_mem fresh lawful h hclosed
      · exact absurd howned hnotOwned
      · rw [carried_of_noReads hnone] at hcarried
        exact absurd hcarried List.not_mem_nil
    refine ⟨fun h hh hnotOwned ↦ hclosed h hh (mt Store.mem_owned.mp hnotOwned), ?_⟩
    intro h hh
    by_cases howned : h ∈ s.cache.store.owned
    · refine lawful.accessAll_closed ((run.opened_of_delivered lawful).2 h hh) ?_
      rw [← s.cache.store.closed_release] at howned
      exact howned
    · exact (lawful.accessAll_keeps s.provider _).closed h (hclosed h hh howned)

/-- Two lookups on their way at once, each of which is handed a handle; the tracker of the first is
replaced by that of the second. -/
def twoHandOvers : List Act :=
  [.begin (.lookup "wifi_on" .primary), .begin (.lookup "adb_enabled" .primary), .answer 0,
    .answer 1, .resume 0, .resume 0]

theorem handles_kept_twoHandOvers :
    delivered (seeded.play [] twoHandOvers).1 = [1, 2] ∧
      Service.custody.closed (seeded.play [] twoHandOvers).2.provider 1 ∧
      (seeded.play [] twoHandOvers).2.cache.store.tracker.map Tracker.handle = some 2 := by
  have run : Run (Service.Moves fun _ ↦ True) seeded _ _ := Run.nil.play twoHandOvers
  have kept := run.handles_kept fresh_seeded (Service.lawful_custody _)
  have hdelivered : delivered (seeded.play [] twoHandOvers).1 = [1, 2] := rfl
  have htracker : (seeded.play [] twoHandOvers).2.cache.store.tracker.map Tracker.handle = some 2 :=
    rfl
  refine ⟨hdelivered, ?_, htracker⟩
  refine (kept.2.2 ?_).1 1 ?_ ?_
  · exact fun o ho ↦ absurd ho List.not_mem_nil
  · rw [hdelivered]
    decide
  · rw [htracker]
    decide

end Overlap

end SettingsCache
