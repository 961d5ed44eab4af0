import SettingsCache.Proofs.Block.Watch

/-!
# What trackers tell

What a tracker takes its slot to hold is what its latest check that could read the slot saw there.
So a change that is made while the slot cannot be read is told by the first check that can read it
again, and only a slot that has gone all the way around is taken for one that was left alone
(`Watch.tells`).
-/

namespace SettingsCache

namespace Watch

variable {β : Type} [WatchedBlock β] {Fit : β → Prop} {w : Watch β}

/-! ## Runs -/

theorem play_append (w : Watch β) (events rest : List Event) :
    w.play (events ++ rest) = (w.play events).play rest := List.foldl_append

theorem reporting_next (w : Watch β) (e : Event) :
    (w.next e).tracker.reporting = w.tracker.reporting := by
  cases e with
  | check =>
    change w.check.tracker.reporting = _
    rcases w.check_outcome with ⟨-, heq⟩ | ⟨value, -, -, heq⟩ | ⟨e, -, heq⟩ <;> rw [heq]
  | write | increment | close | failReads | failClose => rfl

theorem reporting_play (w : Watch β) (events : List Event) :
    (w.play events).tracker.reporting = w.tracker.reporting := by
  induction events generalizing w with
  | nil => rfl
  | cons e rest ih => exact (ih _).trans (w.reporting_next e)

/-- The owner hears of an event the failure that a check meets, and nothing else. -/
theorem hears_eq (w : Watch β) (e : Event) :
    w.hears e = if w.tracker.reporting then (w.failure? e).toList else [] := by
  cases e with
  | check =>
    cases hread : w.reading with
    | ok value => simp [hears, failure?, hread, (check_of_ok hread).2]
    | error e => simp [hears, failure?, hread, check_of_error hread, Tracker.report]
  | write | increment | close | failReads | failClose => exact (ite_self _).symm

theorem heard_eq (w : Watch β) (events : List Event) :
    w.heard events = if w.tracker.reporting then w.failures events else [] := by
  unfold heard failures
  induction events generalizing w with
  | nil => exact (ite_self _).symm
  | cons e rest ih =>
    rw [record, record, ih, reporting_next, hears_eq]
    cases w.tracker.reporting <;> rfl

end Watch

namespace Truthful

variable {β : Type} [WatchedBlock β] {Fit : β → Prop} {w : Watch β} (kind : Truthful β Fit)
include kind

theorem fit_play (h : Fit w.block) (events : List Watch.Event) : Fit (w.play events).block := by
  induction events generalizing w with
  | nil => exact h
  | cons e rest ih => exact ih (kind.fit e h)

/-- What the slot holds after one event after another. -/
theorem held_play (h : Fit w.block) (events : List Watch.Event) :
    (w.play events).held? = w.held?.map fun v ↦ Touch.applyAll v (w.touches events) := by
  induction events generalizing w with
  | nil => exact Option.map_id'.symm
  | cons e rest ih =>
    refine (ih (kind.fit e h)).trans ?_
    rw [kind.held e h, Option.map_map]
    congr
    funext v
    exact (Touch.applyAll_append ..).symm

theorem accepted_next (h : Fit w.block) (e : Watch.Event) :
    (w.next e).tracker.accepted = (w.sees? e).getD w.tracker.accepted := by
  cases e with
  | check =>
    change w.check.tracker.accepted = (if w.reading.isOk then w.held? else none).getD _
    cases hread : w.reading with
    | ok value =>
      have hheld : w.held? = some value := ((kind.read _ _ value h).mp hread).2.2
      rw [(Watch.check_of_ok hread).1, hheld]
      rfl
    | error e =>
      rw [Watch.check_of_error hread]
      rfl
  | write | increment | close | failReads | failClose => rfl

/-- The generation accepted is what was seen last. -/
theorem accepted_play (h : Fit w.block) (events : List Watch.Event) :
    (w.play events).tracker.accepted = (w.seen events).getLast?.getD w.tracker.accepted := by
  induction events generalizing w with
  | nil => rfl
  | cons e rest ih =>
    refine (ih (kind.fit e h)).trans ?_
    change _ = ((w.sees? e).toList ++ (w.next e).seen rest).getLast?.getD _
    rw [kind.accepted_next h e, List.getLast?_append]
    cases ((w.next e).seen rest).getLast? with
    | some v => rfl
    | none => cases w.sees? e <;> rfl

end Truthful

/-! ## What a tracker tells -/

namespace Watch

variable {β : Type} [WatchedBlock β] {Fit : β → Prop} {w : Watch β}

/-- A check of a watch. -/
structure Checks (w : Watch β) : Prop where
  /-- The slot can be read just if the handle is open, reads do not fail and there is the slot. -/
  reads : ∀ value, w.reading = .ok value ↔
    GenerationBlock.isClosed w.block w.tracker.handle = false ∧
      WatchedBlock.readsFail w.block = false ∧ w.held? = some value
  unchanged : w.check.changed = false ↔ w.reading = .ok w.tracker.accepted
  /-- What is read is accepted, and nothing is reported. -/
  read : ∀ value, w.reading = .ok value →
    (w.next .check).tracker.accepted = value ∧ w.hears .check = []
  /-- A failure counts as a change and is reported once, and nothing is accepted. -/
  failed : ∀ e, w.reading = .error e →
    w.check.changed = true ∧ w.hears .check = w.tracker.report e ∧
      (w.next .check).tracker.accepted = w.tracker.accepted ∧
      (w.next .check).tracker.acceptedAt = w.tracker.acceptedAt

/-- What a tracker tells after some events. -/
structure Tells (w : Watch β) (events : List Event) : Prop where
  /-- The generation accepted is what the latest check that could read the slot saw there. -/
  accepted : (w.play events).tracker.accepted = (w.seen events).getLast?.getD w.tracker.accepted
  checks : (w.play events).Checks
  changeable : WatchedBlock.Changeable (w.play events).block
  /-- A check that can read the slot tells a change just if the slot does not hold what was seen
  there last, whatever could not be read in between. -/
  changed : ∀ value, (w.play events).reading = .ok value →
    ((w.play events).check.changed = true ↔
      value ≠ (w.seen events).getLast?.getD w.tracker.accepted)
  /-- If a check before could read the slot, and none after it, then the slot holds what has been
  made of it since. After counting up alone it is told that it has changed unless it went all the
  way around. -/
  around : ∀ (before after : List Event) (seen current : Generation),
    events = before ++ .check :: after → (w.play before).reading = .ok seen →
    (w.play (before ++ [.check])).seen after = [] → (w.play events).reading = .ok current →
      current = Touch.applyAll seen ((w.play (before ++ [.check])).touches after) ∧
      ∀ k, (w.play (before ++ [.check])).touches after = List.replicate k .bump →
        ((w.play events).check.changed = true ↔ ¬ 2 ^ 32 ∣ k)
  /-- The owner hears of each failure of a check, once and in order, and of nothing else. -/
  heard : w.heard events = if w.tracker.reporting then w.failures events else []
  /-- When the tracker is given up, its owner hears of it just if the close fails. -/
  released : ((w.play events).tracker.release (w.play events).block).1 ≠ [] ↔
    w.tracker.reporting = true ∧ WatchedBlock.closesFail (w.play events).block = true

/-- Every check goes as it should. -/
theorem checks (kind : Truthful β Fit) (h : Fit w.block) : w.Checks where
  reads value := kind.read _ _ value h
  unchanged := by
    rcases w.check_outcome with ⟨hread, heq⟩ | ⟨value, hread, hne, heq⟩ | ⟨e, hread, heq⟩ <;>
      simp [hread, heq]
    exact hne
  read value hread := check_of_ok hread
  failed e hread := by
    change w.check.changed = true ∧ w.check.reports = _ ∧ w.check.tracker.accepted = _ ∧
      w.check.tracker.acceptedAt = _
    rw [check_of_error hread]
    exact ⟨rfl, rfl, rfl, rfl⟩

/-- A check that can read the slot tells a change just if it does not read what was accepted. -/
theorem Checks.changed_iff (h : w.Checks) {value : Generation} (hread : w.reading = .ok value) :
    w.check.changed = true ↔ value ≠ w.tracker.accepted := by
  rw [← Bool.not_eq_false, h.unchanged, hread, Except.ok.injEq]

theorem released_iff (kind : Truthful β Fit) (h : Fit w.block) :
    (w.tracker.release w.block).1 ≠ [] ↔
      w.tracker.reporting = true ∧ WatchedBlock.closesFail w.block = true := by
  have hclose := kind.close w.tracker.handle h
  unfold Tracker.release
  rcases hanswer : GenerationBlock.close w.block w.tracker.handle with ⟨⟨e⟩ | ⟨_⟩, block⟩
  · have hfails : WatchedBlock.closesFail w.block = true := by
      simpa [hanswer, Except.isOk, Except.toBool] using hclose
    simp [hfails, Tracker.report]
  · have hfails : WatchedBlock.closesFail w.block = false := by
      simpa [hanswer, Except.isOk, Except.toBool] using hclose
    simp [hfails]

/-- A tracker tells what it should of every kind of block. -/
theorem tells_of_truthful (kind : Truthful β Fit) (h : Fit w.block) (events : List Event) :
    w.Tells events where
  accepted := kind.accepted_play h events
  checks := checks kind (kind.fit_play h events)
  changeable := kind.changeable (kind.fit_play h events)
  changed value hread := by
    rw [← kind.accepted_play h events]
    exact (checks kind (kind.fit_play h events)).changed_iff hread
  around before after seen current hevents hseen hnone hcurrent := by
    have hfit : Fit (w.play (before ++ [.check])).block := kind.fit_play h _
    have hchecks : (w.play before).Checks := checks kind (kind.fit_play h before)
    have hplay : w.play events = (w.play (before ++ [.check])).play after := by
      rw [← play_append, List.append_assoc, hevents]
      rfl
    -- The check accepts what the slot holds, and nothing is accepted after it.
    have haccepted : (w.play events).tracker.accepted = seen := by
      rw [hplay, kind.accepted_play hfit after, hnone, play_append]
      exact (hchecks.read seen hseen).1
    have hheld : (w.play (before ++ [.check])).held? = some seen := by
      rw [play_append]
      refine (kind.held .check (kind.fit_play h before)).trans ?_
      rw [((hchecks.reads seen).mp hseen).2.2]
      rfl
    have hnow : (w.play events).held? = some current :=
      (((checks kind (kind.fit_play h events)).reads current).mp hcurrent).2.2
    have htouched : current =
        Touch.applyAll seen ((w.play (before ++ [.check])).touches after) := by
      rw [hplay, kind.held_play hfit after, hheld] at hnow
      exact (Option.some.inj hnow).symm
    refine ⟨htouched, fun k hk ↦ ?_⟩
    rw [(checks kind (kind.fit_play h events)).changed_iff hcurrent, haccepted, htouched, hk]
    exact not_congr (Touch.applyAll_replicate_bump_eq_iff seen k)
  heard := w.heard_eq events
  released := by
    rw [← w.reporting_play events]
    exact released_iff kind (kind.fit_play h events)

/-- A tracker tells what it should, whatever happens to its block and its handle: over every block
of one process, every block of a directory that came to be, and every block with faults. It takes
the slot to hold what its latest check that could read it saw there, or at first what it was
given. -/
theorem tells :
    (∀ (w : Watch InProcess) (events : List Event), w.Tells events) ∧
    (∀ (t : Tracker) (changes : List Directory.Change) (events : List Event),
      (⟨t, ({} : Directory).changes changes⟩ : Watch Directory).Tells events) ∧
    (∀ (w : Watch Faulty) (events : List Event), w.Tells events) :=
  ⟨fun _ events ↦ tells_of_truthful InProcess.truthful trivial events,
    fun _ changes events ↦
      tells_of_truthful Directory.truthful (Directory.Sound.empty.changes changes) events,
    fun _ events ↦ tells_of_truthful Faulty.truthful trivial events⟩

/-- A slot is counted up while it cannot be read. The failure is heard once, and the first check
that can read the slot again tells the change. -/
example :
    let w : Watch Faulty := ⟨{ handle := 0, slot := 0, accepted := 0 }, Faulty.new 1⟩
    let outage := [.failReads true, .increment 0 0, .check, .failReads false]
    w.heard outage = [.io "injected read failure"] ∧ (w.play outage).check.changed = true ∧
      (w.play (outage ++ [.check])).check.changed = false := by
  decide

end Watch

end SettingsCache
