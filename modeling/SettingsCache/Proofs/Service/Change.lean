import SettingsCache.Scenario.Stage

/-!
# How the service changes

As far as one namespace is concerned, the service does one of two things: it leaves the entries and
the counter as they are, or it moves the counter on by one. `Ticks` says so, and every call and
every other change that does not set the counter ticks.
-/

namespace SettingsCache

theorem Namespace.slot_lt (ns : Namespace) : ns.slot < Namespace.all.length := by
  cases ns <;> decide

theorem Namespace.slot_injective {ns other : Namespace} (h : ns.slot = other.slot) :
    ns = other := by
  cases ns <;> cases other <;> first | rfl | exact absurd h (by decide)

namespace Service

/-! ## What stays the same -/

/-- What a service is set up with: no call changes it. -/
def setup (s : Service) : UserId × List Fault × Option Int32 × Nat :=
  (s.ownUser, s.faults, s.trackerIndex, s.block.slots.size)

/-- Each namespace has its slot. -/
def Slotted (s : Service) : Prop := s.block.slots.size = Namespace.all.length

section OfSetup

variable {s t : Service}

theorem ownUser_of_setup (h : t.setup = s.setup) : t.ownUser = s.ownUser := congrArg (·.1) h

theorem trackerIndex_of_setup (h : t.setup = s.setup) : t.trackerIndex = s.trackerIndex :=
  congrArg (·.2.2.1) h

theorem hasFault_of_setup (h : t.setup = s.setup) (fault : Fault) :
    t.hasFault fault = s.hasFault fault := by
  have hfaults : t.faults = s.faults := congrArg (·.2.1) h
  rw [hasFault, hfaults, hasFault]

theorem slotted_of_setup (h : t.setup = s.setup) (hs : s.Slotted) : t.Slotted := by
  have hsize : t.block.slots.size = s.block.slots.size := congrArg (·.2.2.2) h
  exact hsize.trans hs

end OfSetup

/-- What one change of the service does to a namespace. -/
inductive Ticks (ns : Namespace) (s s' : Service) : Prop
  /-- The entries and the counter stay. -/
  | quiet (entries : s'.tables.get ns = s.tables.get ns)
      (counter : s'.generation ns = s.generation ns)
  /-- The counter moves on by one. -/
  | bumped (counter : s'.generation ns = s.generation ns + 1)

/-- What the counts and the notes of a call say of itself does not matter to a namespace. -/
theorem Ticks.after {ns : Namespace} {s t s' : Service} (h : Ticks ns t s')
    (entries : t.tables.get ns = s.tables.get ns) (counter : t.generation ns = s.generation ns) :
    Ticks ns s s' := by
  cases h with
  | quiet entries' counter' => exact .quiet (entries'.trans entries) (counter'.trans counter)
  | bumped counter' =>
    rw [counter] at counter'
    exact .bumped counter'

@[simp] theorem setup_bump (s : Service) (ns : Namespace) : (s.bump ns).setup = s.setup := by
  simp [setup, bump, Faulty.increment, Faulty.write, Slots.write]

theorem setup_handOverIf (s : Service) (track : Bool) (ns : Namespace) (g : Generation) :
    (s.handOverIf track ns g).2.setup = s.setup := by
  unfold handOverIf handOver
  split
  · split <;> rfl
  · rfl

/-! ## Counters -/

theorem generation_write (b : Slots) (ns other : Namespace) (g : Generation)
    (hsize : b.size = Namespace.all.length) :
    (b.write ns.slot g).getD other.slot 0 = if other = ns then g else b.getD other.slot 0 := by
  have hlt := ns.slot_lt
  have hlt' := other.slot_lt
  rw [← hsize] at hlt hlt'
  simp only [Slots.write, Array.getD_eq_getD_getElem?, Array.getElem?_setIfInBounds]
  by_cases h : other = ns
  · subst h
    simp [hlt]
  · have hne : ns.slot ≠ other.slot := fun heq ↦ h (Namespace.slot_injective heq).symm
    simp [h, hne]

/-- A bump moves on the counter of its own namespace only. -/
theorem generation_bump {s : Service} (hs : s.Slotted) (ns other : Namespace) :
    (s.bump ns).generation other =
      if other = ns then s.generation other + 1 else s.generation other := by
  have h := generation_write s.block.slots ns other (s.generation ns + 1) hs
  refine Eq.trans h ?_
  split
  · next heq => rw [heq]
  · rfl

theorem generation_setGeneration {s : Service} (hs : s.Slotted) (ns other : Namespace)
    (g : Generation) :
    (s.setGeneration ns g).generation other = if other = ns then g else s.generation other :=
  generation_write s.block.slots ns other g hs

/-- Putting entries in place and bumping the counter after it ticks. -/
theorem ticks_setTable_bump {s : Service} (hs : s.Slotted) (ns other : Namespace) (user : UserId)
    (table : Table) : Ticks ns s ((s.setTable other user table).bump other) := by
  have hs' : (s.setTable other user table).Slotted := hs
  by_cases h : ns = other
  · apply Ticks.bumped
    rw [generation_bump hs', if_pos h]
    rfl
  · refine .quiet ?_ ?_
    · exact PerNamespace.get_set_of_ne s.tables _ h
    · rw [generation_bump hs', if_neg h]
      rfl

/-! ## Calls -/

@[simp] theorem setup_heard (s : Service) (ns : Namespace) {verb : Verb} (call : Call verb) :
    (s.heard ns call).setup = s.setup := by
  cases call <;> rfl

theorem ticks_heard (s : Service) (ns other : Namespace) {verb : Verb} (call : Call verb) :
    Ticks ns s (s.heard other call) := by
  cases call <;> exact .quiet rfl rfl

theorem ticks_handOverIf (s : Service) (track : Bool) (ns other : Namespace) (g : Generation) :
    Ticks ns s (s.handOverIf track other g).2 := by
  unfold handOverIf handOver
  split
  · split <;> exact .quiet rfl rfl
  · exact .quiet rfl rfl

/-- A call leaves what the service is set up with. -/
@[simp] theorem setup_serve (s : Service) (ns : Namespace) {verb : Verb} (call : Call verb) :
    (s.serve ns call).2.setup = s.setup := by
  cases call with
  | get request =>
    dsimp only [serve, get]
    split
    · rfl
    · split
      · rfl
      · split
        · rfl
        · exact setup_handOverIf ..
  | put request =>
    dsimp only [serve, put]
    split
    · rfl
    · exact setup_bump ..
  | query name user =>
    dsimp only [serve, query]
    split <;> rfl
  | list request =>
    dsimp only [serve, list]
    split
    · rfl
    · exact setup_handOverIf ..
  | reset request =>
    dsimp only [serve, reset]
    split
    · rfl
    · exact setup_bump ..

/-- A call ticks. -/
theorem ticks_serve {s : Service} (hs : s.Slotted) (ns other : Namespace) {verb : Verb}
    (call : Call verb) : Ticks ns s (s.serve other call).2 := by
  cases call with
  | get request =>
    dsimp only [serve, get]
    split
    · exact .quiet rfl rfl
    · split
      · exact .quiet rfl rfl
      · split
        · exact .quiet rfl rfl
        · exact (ticks_handOverIf ..).after rfl rfl
  | put request =>
    dsimp only [serve, put, updateEntry]
    split
    · exact .quiet rfl rfl
    · refine Ticks.after (ticks_setTable_bump ?_ ns other _ _) rfl rfl
      exact hs
  | query name user =>
    dsimp only [serve, query]
    split <;> exact .quiet rfl rfl
  | list request =>
    dsimp only [serve, list]
    split
    · exact .quiet rfl rfl
    · exact (ticks_handOverIf ..).after rfl rfl
  | reset request =>
    dsimp only [serve, reset]
    split
    · exact .quiet rfl rfl
    · refine Ticks.after (ticks_setTable_bump ?_ ns other _ _) rfl rfl
      exact hs

/-! ### Calls in two parts -/

/-- What is noted for a call is where the counter stands, and the call is heard. -/
theorem note?_eq {s s' : Service} {ns : Namespace} {verb : Verb} {call : Call verb}
    {generation : Generation} (h : s.note? ns call = some (generation, s')) :
    s' = s.heard ns call ∧ generation = s.generation ns := by
  cases call with
  | get | list =>
    dsimp only [note?] at h
    split at h
    · cases h
    · cases h
      exact ⟨rfl, rfl⟩
  | put | query | reset => cases h

/-- To note a generation for a call and to reply at once is to answer the call, so that a call in
two parts differs from one that is carried out only in what comes in between. -/
theorem serve_of_note? {s s' : Service} {ns : Namespace} {verb : Verb} {call : Call verb}
    {generation : Generation} (h : s.note? ns call = some (generation, s')) :
    s.serve ns call = s'.reply ns call generation := by
  obtain ⟨rfl, rfl⟩ := note?_eq h
  cases call with
  | get request =>
    dsimp only [note?] at h
    split at h
    · cases h
    · next hfaults =>
      simp only [List.any_cons, List.any_nil, Bool.or_eq_true, not_or] at hfaults
      obtain ⟨hunsupported, hfails, hempty, -⟩ := hfaults
      dsimp only [serve, get]
      change (if s.hasFault .getUnsupported then _ else
        if s.hasFault .failGet then _ else if s.hasFault .emptyGetReply then _ else _) = _
      rw [if_neg hunsupported, if_neg hfails, if_neg hempty]
      rfl
  | list request =>
    dsimp only [note?] at h
    split at h
    · cases h
    · next hfails =>
      dsimp only [serve, list]
      change (if s.hasFault .failList then _ else _) = _
      rw [if_neg hfails]
      rfl
  | put | query | reset => cases h

/-- A reply at most hands over at the generation that was noted, or it is an answer as any other. -/
theorem reply_cases (s : Service) (ns : Namespace) {verb : Verb} (call : Call verb)
    (generation : Generation) :
    (∃ track, (s.reply ns call generation).2 = (s.handOverIf track ns generation).2) ∨
      s.reply ns call generation = s.serve ns call := by
  cases call with
  | get request => exact .inl ⟨request.track, rfl⟩
  | list request => exact .inl ⟨request.track, rfl⟩
  | put | query | reset => exact .inr rfl

@[simp] theorem setup_answer (s : Service) (ns : Namespace) {verb : Verb} (call : Call verb)
    (noted : Option Generation) : (Provider.answer s ns call noted).2.setup = s.setup := by
  cases noted with
  | none => exact setup_serve ..
  | some generation =>
    change (s.reply ns call generation).2.setup = _
    rcases s.reply_cases ns call generation with ⟨track, h⟩ | h
    · rw [h]
      exact setup_handOverIf ..
    · rw [h]
      exact setup_serve ..

/-- An answer ticks, whatever was noted for it. -/
theorem ticks_answer {s : Service} (hs : s.Slotted) (ns other : Namespace) {verb : Verb}
    (call : Call verb) (noted : Option Generation) :
    Ticks ns s (Provider.answer s other call noted).2 := by
  cases noted with
  | none => exact ticks_serve hs ns other call
  | some generation =>
    change Ticks ns s (s.reply other call generation).2
    rcases s.reply_cases other call generation with ⟨track, h⟩ | h
    · rw [h]
      exact ticks_handOverIf ..
    · rw [h]
      exact ticks_serve hs ns other call

/-! ## Faults -/

/-- Switching a fault on or off has no bearing on the other faults. -/
theorem hasFault_setFault (s : Service) (fault other : Fault) (on : Bool) :
    (s.setFault fault on).hasFault other = if other = fault then on else s.hasFault other := by
  unfold setFault hasFault
  by_cases h : other = fault
  · subst h
    cases on <;> simp
  · cases on <;> simp [h]

/-! ## Any change -/

/-- A usable index is that of the namespace's own slot. -/
def OwnIndex (ns : Namespace) (index : Option Int32) : Prop :=
  ∀ i, index = some i → 0 ≤ i.toInt → i.toInt < Namespace.all.length → i.toInt = ns.slot

/-- The namespace has its slot, and trackers are handed this slot or no slot. -/
structure Assigns (ns : Namespace) (s : Service) : Prop where
  slotted : s.Slotted
  index : OwnIndex ns s.trackerIndex

/-- The service keeps to its word about a namespace: the namespace has its slot, rows come back
under the name that was asked for, and trackers are handed the namespace's own slot or no slot. -/
structure Honest (ns : Namespace) (s : Service) : Prop where
  slotted : s.Slotted
  named : s.hasFault .misnamedQueryRows = false
  index : OwnIndex ns s.trackerIndex

theorem Honest.assigns {ns : Namespace} {s : Service} (h : s.Honest ns) : s.Assigns ns :=
  ⟨h.slotted, h.index⟩

end Service

open Scenario

/-- A step that does not set the counter of a namespace and has trackers handed the namespace's own
slot or no slot. -/
def Scenario.ServiceStep.Orderly (ns : Namespace) : ServiceStep → Prop
  | .setGeneration other _ => other ≠ ns
  | .setTrackerIndex index => Service.OwnIndex ns index
  | _ => True

/-- A step that keeps a service to its word about a namespace and does not set the counter of the
namespace. -/
def Scenario.ServiceStep.Fair (ns : Namespace) : ServiceStep → Prop
  | .setGeneration other _ => other ≠ ns
  | .setFault fault on => fault = .misnamedQueryRows → on = false
  | .setTrackerIndex index => Service.OwnIndex ns index
  | _ => True

theorem Scenario.ServiceStep.Fair.orderly {ns : Namespace} {step : ServiceStep}
    (h : step.Fair ns) : step.Orderly ns := by
  cases step with
  | setGeneration | setTrackerIndex => exact h
  | _ => trivial

namespace Service

/-- The changes of a service that steps from outside make to it, and the accesses of caches. -/
inductive Moves (allowed : ServiceStep → Prop) (s : Service) : Service → Prop
  | step (step : ServiceStep) (h : allowed step) : Moves allowed s (step.run s).2
  | access (access : Access) : Moves allowed s (s.access access)

theorem ticks_run {s : Service} (hs : s.Slotted) {ns : Namespace} {step : ServiceStep}
    (h : step.Orderly ns) : Ticks ns s (step.run s).2 := by
  cases step with
  | insert other => exact ticks_setTable_bump hs ns other _ _
  | bump other =>
    by_cases heq : ns = other
    · apply Ticks.bumped
      exact (generation_bump hs other ns).trans (if_pos heq)
    · refine .quiet rfl ?_
      exact (generation_bump hs other ns).trans (if_neg heq)
  | setGeneration other g =>
    refine .quiet rfl ?_
    exact (generation_setGeneration hs other ns g).trans (if_neg (Ne.symm h))
  | closeHandle place =>
    dsimp only [ServiceStep.run]
    split <;> exact .quiet rfl rfl
  | call other call => exact ticks_serve hs ns other call
  | _ => exact .quiet rfl rfl

theorem Assigns.congr {ns : Namespace} {s s' : Service} (h : s.Assigns ns)
    (hsetup : s'.setup = s.setup) : s'.Assigns ns := by
  refine ⟨slotted_of_setup hsetup h.slotted, ?_⟩
  rw [trackerIndex_of_setup hsetup]
  exact h.index

theorem Honest.congr {ns : Namespace} {s s' : Service} (h : s.Honest ns)
    (hsetup : s'.setup = s.setup) : s'.Honest ns :=
  have hassigns := h.assigns.congr hsetup
  ⟨hassigns.slotted, (hasFault_of_setup hsetup _).trans h.named, hassigns.index⟩

theorem Assigns.run {ns : Namespace} {s : Service} (h : s.Assigns ns) {step : ServiceStep}
    (hstep : step.Orderly ns) : (step.run s).2.Assigns ns := by
  cases step with
  | insert => exact h.congr (setup_bump ..)
  | bump => exact h.congr (setup_bump ..)
  | setGeneration =>
    refine ⟨?_, h.index⟩
    exact Array.size_setIfInBounds.trans h.slotted
  | setTrackerIndex index => exact ⟨h.slotted, hstep⟩
  | closeHandle place =>
    dsimp only [ServiceStep.run]
    split <;> exact ⟨h.slotted, h.index⟩
  | call other call => exact h.congr (setup_serve ..)
  | _ => exact ⟨h.slotted, h.index⟩

theorem Honest.run {ns : Namespace} {s : Service} (h : s.Honest ns) {step : ServiceStep}
    (hstep : step.Fair ns) : (step.run s).2.Honest ns := by
  obtain ⟨slotted, index⟩ := h.assigns.run hstep.orderly
  refine ⟨slotted, ?_, index⟩
  cases step with
  | insert | bump => exact (hasFault_of_setup (setup_bump ..) _).trans h.named
  | setFault fault on =>
    refine (hasFault_setFault ..).trans ?_
    split
    · next heq => exact hstep heq.symm
    · exact h.named
  | closeHandle place =>
    dsimp only [ServiceStep.run]
    split <;> exact h.named
  | call other call => exact (hasFault_of_setup (setup_serve ..) _).trans h.named
  | _ => exact h.named

theorem ownUser_run (s : Service) (step : ServiceStep) :
    (step.run s).2.ownUser = s.ownUser := by
  cases step with
  | closeHandle place =>
    dsimp only [ServiceStep.run]
    split <;> rfl
  | call other call => exact ownUser_of_setup (setup_serve s other call)
  | _ => rfl

/-- An orderly change keeps the slots in their place, and it ticks. -/
theorem Assigns.moves {ns : Namespace} {s s' : Service} (h : s.Assigns ns)
    (hmove : Moves (ServiceStep.Orderly ns) s s') :
    s'.Assigns ns ∧ s'.ownUser = s.ownUser ∧ Ticks ns s s' := by
  cases hmove with
  | step step hstep => exact ⟨h.run hstep, ownUser_run s step, ticks_run h.slotted hstep⟩
  | access access => cases access <;> exact ⟨h.congr rfl, rfl, .quiet rfl rfl⟩

/-- So does an answer. -/
theorem Assigns.answer {ns : Namespace} {s : Service} (h : s.Assigns ns) (other : Namespace)
    {verb : Verb} (call : Call verb) (noted : Option Generation) :
    (Provider.answer s other call noted).2.Assigns ns ∧
      (Provider.answer s other call noted).2.ownUser = s.ownUser ∧
      Ticks ns s (Provider.answer s other call noted).2 :=
  ⟨h.congr (setup_answer ..), ownUser_of_setup (setup_answer s other call noted),
    ticks_answer h.slotted ns other call noted⟩

/-- So does a note. -/
theorem Assigns.note {ns : Namespace} {s s' : Service} (h : s.Assigns ns) {other : Namespace}
    {verb : Verb} {call : Call verb} {generation : Generation}
    (hnote : s.note? other call = some (generation, s')) :
    s'.Assigns ns ∧ s'.ownUser = s.ownUser ∧ Ticks ns s s' := by
  obtain ⟨rfl, -⟩ := note?_eq hnote
  exact ⟨h.congr (setup_heard ..), ownUser_of_setup (setup_heard ..), ticks_heard ..⟩

@[simp] theorem setup_accessAll (s : Service) (accesses : List Access) :
    (Provider.accessAll s accesses).setup = s.setup := by
  induction accesses generalizing s with
  | nil => rfl
  | cons access rest ih =>
    refine (ih _).trans ?_
    cases access <;> rfl

/-- What a cache does to the block changes nothing but handles and the count of reads. -/
theorem ticks_accessAll (s : Service) (ns : Namespace) (accesses : List Access) :
    Ticks ns s (Provider.accessAll s accesses) := by
  induction accesses generalizing s with
  | nil => exact .quiet rfl rfl
  | cons access rest ih => apply (ih (s.access access)).after <;> cases access <;> rfl

theorem Assigns.accessAll {ns : Namespace} {s : Service} (h : s.Assigns ns)
    (accesses : List Access) :
    (Provider.accessAll s accesses).Assigns ns ∧
      (Provider.accessAll s accesses).ownUser = s.ownUser ∧
      Ticks ns s (Provider.accessAll s accesses) :=
  ⟨h.congr (setup_accessAll ..), ownUser_of_setup (setup_accessAll ..), ticks_accessAll ..⟩

theorem Moves.imp {allowed allowed' : ServiceStep → Prop} {s s' : Service}
    (hmove : Moves allowed s s') (h : ∀ step, allowed step → allowed' step) :
    Moves allowed' s s' := by
  cases hmove with
  | step step hstep => exact .step step (h step hstep)
  | access access => exact .access access

/-- A fair change keeps the service to its word. -/
theorem Honest.moves {ns : Namespace} {s s' : Service} (h : s.Honest ns)
    (hmove : Moves (ServiceStep.Fair ns) s s') : s'.Honest ns := by
  cases hmove with
  | step step hstep => exact h.run hstep
  | access access => cases access <;> exact h.congr rfl

end Service

end SettingsCache
