import SettingsCache.Proofs.Provenance

/-!
# What lies behind the lock

A cache keeps its tracker together with a flag. The failures of a tracker are reported while the
cache has its lock: its owner raises the flag, and the cache looks at the flag, and lowers it, when
it has checked the tracker. A tracker that is closed may still report a failure, but its flag is one
that nothing looks at any more.

`Store` leaves the flags out, since a check tells at once what it has reported. `Locked` has them:
`Locked.act` goes through what is done behind the lock at a moment, with closings that may fail, and
`Overlap.Run.locked` says that it comes to the store of the cache at the end of every turn, and that
the flag of the tracker is lowered then.
-/

namespace SettingsCache

/-- A tracker together with the place of its flag. -/
structure Slot where
  tracker : Tracker
  flag : Nat

/-- What a cache holds behind its lock, with the flags of all the trackers that it has had. -/
structure Locked where
  values : NameMap (Option String) := ∅
  stems : NameSet := ∅
  slot : Option Slot := none
  flags : Array Bool := #[]

/-- How handles can be closed at a moment. -/
abbrev Closings := Handle → Except ArrayError Unit

/-- What the owner of a tracker hears as the handle is closed. -/
def Tracker.closed (t : Tracker) : Except ArrayError Unit → List ArrayError
  | .ok _ => []
  | .error e => t.report e

namespace Locked

/-- The store, which has no flags. -/
def store (l : Locked) : Store := ⟨l.values, l.stems, l.slot.map Slot.tracker⟩

/-! ## Actions -/

/-- Raise or lower a flag. -/
def setFlag (l : Locked) (flag : Nat) (raised : Bool) : Locked :=
  { l with flags := l.flags.setIfInBounds flag raised }

/-- Whether a flag is raised. -/
def raised (l : Locked) (flag : Nat) : Bool := l.flags.getD flag false

/-- Hear the reports of a tracker: its flag is raised if there are any. -/
def hear (l : Locked) (flag : Nat) (reports : List ArrayError) : Locked :=
  if reports.isEmpty then l else l.setFlag flag true

/-- Give up what is kept. -/
def empty (l : Locked) : Locked := { l with values := ∅, stems := ∅ }

/-- Give up the tracker, if there is one, and close its handle. -/
def destroy (l : Locked) (closings : Closings) : Locked :=
  match l.slot with
  | none => l
  | some slot =>
    { l with slot := none }.hear slot.flag (slot.tracker.closed (closings slot.tracker.handle))

/-- Check the tracker, if there is one, and look at its flag. -/
def sync (l : Locked) (view : BlockView) (closings : Closings) : Locked :=
  match l.slot with
  | none => l
  | some slot =>
    let check := slot.tracker.check (view slot.tracker.handle slot.tracker.slot)
    let checked := { l with slot := some { slot with tracker := check.tracker } }
    let heard := checked.hear slot.flag check.reports
    let lowered := heard.setFlag slot.flag false
    if heard.raised slot.flag then (lowered.destroy closings).empty
    else if check.changed then lowered.empty
    else lowered

/-- Adopt a tracker with a flag of its own, if the hand-over starts one. -/
def install (l : Locked) (closings : Closings) (handOver : HandOver) : Locked :=
  match Tracker.ofHandOver? handOver with
  | none => l
  | some tracker =>
    let flagged := { l with flags := l.flags.push false }
    { (flagged.destroy closings).empty with slot := some ⟨tracker, l.flags.size⟩ }

/-- Keep a finding. -/
def keep (l : Locked) (finding : Finding) : Locked :=
  { l with
    values := (l.store.keep finding).values
    stems := (l.store.keep finding).stems }

/-- Complete a read. -/
def complete (l : Locked) (closings : Closings) (k : Completion) : Locked :=
  if k.fetch.caching then
    let installed := k.handOver.elim l (l.install closings)
    if installed.store.generation.isSome && installed.store.generation == k.known then
      installed.keep k.finding
    else installed
  else l

/-- What is done behind the lock at a moment. -/
def act (l : Locked) (closings : Closings) (c : Cache) : Deed → Locked
  | .began operation view _ => if c.checks operation then l.sync view closings else l
  | .resumed _ _ pending outcome _ => (pending.completion? outcome).elim l (l.complete closings)
  | .cleared _ => (l.destroy closings).empty
  | .noted _ _ | .answered _ _ | .moved => l

/-! ## Flags -/

/-- The flag of the tracker, if there is a tracker, is lowered. -/
def Lowered (l : Locked) : Prop := ∀ slot, l.slot = some slot → l.flags[slot.flag]? = some false

variable {l : Locked} {closings : Closings}

@[simp] theorem slot_hear (l : Locked) (flag : Nat) (reports : List ArrayError) :
    (l.hear flag reports).slot = l.slot := by
  unfold hear
  split <;> rfl

@[simp] theorem store_hear (l : Locked) (flag : Nat) (reports : List ArrayError) :
    (l.hear flag reports).store = l.store := by
  unfold hear
  split <;> rfl

/-- A flag that was lowered is raised just if there are reports. -/
theorem raised_hear {flag : Nat} (h : l.flags[flag]? = some false) (reports : List ArrayError) :
    (l.hear flag reports).raised flag = !reports.isEmpty := by
  obtain ⟨hlt, hfalse⟩ := Array.getElem?_eq_some_iff.mp h
  unfold hear raised
  cases reports.isEmpty with
  | true => simp [Array.getD, hlt, hfalse]
  | false => simp [setFlag, Array.getD, hlt]

theorem getElem?_hear_of_ne {flag other : Nat} (h : other ≠ flag) (reports : List ArrayError) :
    (l.hear flag reports).flags[other]? = l.flags[other]? := by
  unfold hear
  split
  · rfl
  · exact Array.getElem?_setIfInBounds_ne h.symm

theorem size_flags_hear (l : Locked) (flag : Nat) (reports : List ArrayError) :
    (l.hear flag reports).flags.size = l.flags.size := by
  unfold hear
  split
  · rfl
  · exact Array.size_setIfInBounds

@[simp] theorem slot_destroy (l : Locked) (closings : Closings) :
    (l.destroy closings).slot = none := by
  unfold destroy
  split
  · next h => exact h
  · exact slot_hear ..

@[simp] theorem store_destroy (l : Locked) (closings : Closings) :
    (l.destroy closings).store = { l.store with tracker := none } := by
  unfold destroy
  split
  · next h => simp [store, h]
  · next slot h => rw [store_hear]; rfl

@[simp] theorem store_empty (l : Locked) : l.empty.store = { tracker := l.store.tracker } := rfl

@[simp] theorem store_keep (l : Locked) (finding : Finding) :
    (l.keep finding).store = l.store.keep finding := by
  cases finding <;> rfl

theorem Lowered.of_untracked (h : l.slot = none) : l.Lowered := by
  intro slot hslot
  cases h.symm.trans hslot

theorem Lowered.empty (h : l.Lowered) : l.empty.Lowered := h

theorem Lowered.keep (h : l.Lowered) (finding : Finding) : (l.keep finding).Lowered := h

/-- The flag of the tracker is one of those that there are. -/
theorem Lowered.flag_lt (h : l.Lowered) {slot : Slot} (hslot : l.slot = some slot) :
    slot.flag < l.flags.size :=
  (Array.getElem?_eq_some_iff.mp (h slot hslot)).1

theorem Lowered.setFlag {t : Tracker} {flag : Nat} (hslot : l.slot = some ⟨t, flag⟩)
    (hlt : flag < l.flags.size) : (l.setFlag flag false).Lowered := by
  intro slot hslot'
  obtain rfl := Option.some.inj (hslot.symm.trans hslot')
  exact Array.getElem?_setIfInBounds_self_of_lt hlt

/-- The state in which a check has been made and heard of, and the flag has been lowered again. -/
def checked (l : Locked) (slot : Slot) (check : Check) : Locked :=
  (({ l with slot := some { slot with tracker := check.tracker } } : Locked).hear slot.flag
    check.reports).setFlag slot.flag false

@[simp] theorem store_checked (l : Locked) (slot : Slot) (check : Check) :
    (l.checked slot check).store = { l.store with tracker := some check.tracker } := by
  change (Locked.hear _ _ _).store = _
  rw [store_hear]
  rfl

theorem Lowered.checked (h : l.Lowered) {slot : Slot} (hslot : l.slot = some slot)
    (check : Check) : (l.checked slot check).Lowered := by
  refine .setFlag (slot_hear ..) ?_
  rw [size_flags_hear]
  exact h.flag_lt hslot

/-- The flag that a cache looks at when it has checked its tracker tells what the check has just
reported. -/
theorem Lowered.sync_eq (h : l.Lowered) {slot : Slot} (hslot : l.slot = some slot)
    (view : BlockView) (closings : Closings) :
    let check := slot.tracker.check (view slot.tracker.handle slot.tracker.slot)
    l.sync view closings =
      if check.reports.isEmpty then
        if check.changed then (l.checked slot check).empty else l.checked slot check
      else ((l.checked slot check).destroy closings).empty := by
  intro check
  have hraised := raised_hear (l := { l with slot := some { slot with tracker := check.tracker } })
    (h slot hslot) check.reports
  simp only [sync, hslot]
  rw [hraised]
  cases check.reports.isEmpty <;> rfl

/-! ## The store -/

/-- What is held behind the lock is a store, and the flag of its tracker is lowered. -/
structure Holds (l : Locked) (s : Store) : Prop where
  store : l.store = s
  lowered : l.Lowered

namespace Holds

variable {s s' : Store}

/-- To give up the tracker and what is kept leaves nothing. -/
theorem clear (l : Locked) (closings : Closings) : (l.destroy closings).empty.Holds {} :=
  ⟨by rw [store_empty, store_destroy], .of_untracked (slot_destroy ..)⟩

/-- Without a tracker there is nothing to check. -/
theorem slot_eq_none (h : l.Holds s) (ht : s.tracker = none) : l.slot = none := by
  rw [← h.store] at ht
  exact Option.map_eq_none_iff.mp ht

/-- A tracker has a flag. -/
theorem slot_eq_some (h : l.Holds s) {t : Tracker} (ht : s.tracker = some t) :
    ∃ slot, l.slot = some slot ∧ slot.tracker = t := by
  rw [← h.store] at ht
  exact Option.map_eq_some_iff.mp ht

/-- A check comes to the store that it should, and lowers the flag that it may have raised. -/
theorem sync (h : l.Holds s) (hr : s.Reporting) {view : BlockView} {accesses : List Access}
    {g : Option Generation} (hchecked : Checked true view s s' accesses g) (closings : Closings) :
    (l.sync view closings).Holds s' := by
  cases hchecked with
  | skipped hnone =>
    have hslot := h.slot_eq_none (hnone rfl)
    rw [Locked.sync, hslot]
    exact h
  | lost _ ht hview =>
    obtain ⟨slot, hslot, rfl⟩ := h.slot_eq_some ht
    rw [h.lowered.sync_eq hslot]
    simp only [hview, Tracker.check, Tracker.report, hr _ ht, if_true]
    exact clear ..
  | moved _ ht hview hg =>
    obtain ⟨slot, hslot, rfl⟩ := h.slot_eq_some ht
    rw [h.lowered.sync_eq hslot]
    simp only [hview, Tracker.check, hg, if_false, if_true, List.isEmpty_nil]
    exact ⟨by rw [store_empty, store_checked], (h.lowered.checked hslot _).empty⟩
  | steady _ ht hview =>
    obtain ⟨slot, hslot, rfl⟩ := h.slot_eq_some ht
    rw [h.lowered.sync_eq hslot]
    simp only [hview, Tracker.check, if_true, List.isEmpty_nil, Bool.false_eq_true, if_false]
    exact ⟨by rw [store_checked, h.store], h.lowered.checked hslot _⟩

/-- A hand-over that starts no tracker changes nothing. -/
theorem install_of_none {k : Completion} (h : k.tracker? = none) (l : Locked)
    (closings : Closings) : k.handOver.elim l (l.install closings) = l := by
  cases hhandOver : k.handOver with
  | none => rfl
  | some handOver =>
    rw [Completion.tracker?, hhandOver, Option.bind_some] at h
    rw [Option.elim_some, install, h]

/-- A tracker that is adopted takes the place of all that is kept, and its flag is a new one. -/
theorem install_of_some {k : Completion} {t : Tracker} (ht : k.tracker? = some t)
    (h : l.Lowered) (closings : Closings) :
    (k.handOver.elim l (l.install closings)).Holds { tracker := some t } := by
  obtain ⟨handOver, hhandOver, ht⟩ := Option.bind_eq_some_iff.mp ht
  rw [hhandOver, Option.elim_some, install, ht]
  refine ⟨rfl, fun slot hslot ↦ ?_⟩
  obtain rfl : (⟨t, l.flags.size⟩ : Slot) = slot := Option.some.inj hslot
  have hnew : (l.flags.push false)[l.flags.size]? = some false := by simp
  change (({ l with flags := l.flags.push false } : Locked).destroy closings).flags[l.flags.size]? =
    some false
  unfold destroy
  split
  · exact hnew
  · next old hold =>
    -- The failure to close the old handle raises the flag of the old tracker.
    have hne : l.flags.size ≠ old.flag := Nat.ne_of_gt (h.flag_lt hold)
    rw [getElem?_hear_of_ne hne]
    exact hnew

/-- Once a hand-over has been dealt with, the finding is kept if the generation is the known one. -/
theorem complete_of_installed {k : Completion} (hc : k.fetch.caching = true)
    (h : (k.handOver.elim l (l.install closings)).Holds s) {keeps : Bool}
    (hkeeps : (s.generation.isSome && s.generation == k.known) = keeps) :
    (l.complete closings k).Holds (if keeps then s.keep k.finding else s) := by
  rw [Locked.complete, if_pos hc]
  dsimp only
  rw [h.store, hkeeps]
  cases keeps with
  | false => exact h
  | true => exact ⟨by rw [if_pos rfl, if_pos rfl, store_keep, h.store], h.lowered.keep k.finding⟩

/-- The completion of a read comes to the store that it should. -/
theorem complete (h : l.Holds s) {k : Completion} {accesses : List Access} {g : Option Generation}
    (hcompleted : Completed k s s' accesses g) (closings : Closings) :
    (l.complete closings k).Holds s' := by
  have hsame (ht : k.tracker? = none) : (k.handOver.elim l (l.install closings)).Holds s := by
    rwa [install_of_none ht]
  have htold := hcompleted.isSome_told
  cases hcompleted with
  | foreign hc =>
    rw [Locked.complete, hc]
    exact h
  | late hc ht => exact complete_of_installed hc (hsame ht) (htold hc)
  | kept hc ht =>
    rw [Store.generation_keep] at htold
    exact complete_of_installed hc (hsame ht) (htold hc)
  | adopted hc ht =>
    rw [Store.generation_keep] at htold
    exact complete_of_installed hc (install_of_some ht h.lowered closings) (htold hc)

/-- What is done behind the lock at a moment comes to the store that the moment leaves. -/
theorem act (h : l.Holds s) {c : Cache} (hc : c.store = s) (hr : s.Reporting) {view : BlockView}
    {out : List Outstanding} {deed : Deed} (heffect : Effect c view out deed s')
    (closings : Closings) : (l.act closings c deed).Holds s' := by
  subst hc
  cases heffect with
  | @began _ operation turn fetch hstart =>
    have hchecked := hstart.checked
    rw [Locked.act]
    cases hchecks : c.checks operation with
    | true =>
      rw [hchecks] at hchecked
      exact h.sync hr hchecked closings
    | false =>
      rw [hchecks] at hchecked
      generalize turn.cache.store = after, turn.accesses = accesses, fetch.observed = observed
        at hchecked ⊢
      cases hchecked with
      | skipped => exact h
      | lost hc | moved hc | steady hc => cases hc
  | completed hout hk hcompleted =>
    rw [Locked.act, hk]
    exact h.complete hcompleted closings
  | quiet hk =>
    rw [Locked.act, hk]
    exact h
  | cleared => exact clear ..
  | noted | answered | moved => exact h

end Holds

end Locked

/-! ## Runs -/

namespace Overlap

variable {σ : Type}

/-- What lies behind the lock after the moments of a log, by how handles can be closed at each. -/
def locked (closings : Nat → Closings) (log : List (Moment σ)) : Locked :=
  log.zipIdx.foldl (fun l entry ↦ l.act (closings entry.2) entry.1.before.cache entry.1.deed) {}

theorem locked_snoc (closings : Nat → Closings) (log : List (Moment σ)) (m : Moment σ) :
    locked closings (log ++ [m]) =
      (locked closings log).act (closings log.length) m.before.cache m.deed := by
  simp [locked, List.zipIdx_append]

variable [Provider σ] {moves : σ → σ → Prop} {start s : Overlap σ} {log : List (Moment σ)}

/-- At the end of every turn, what lies behind the lock is the store of the cache, and the flag of
the tracker is lowered. -/
theorem Run.locked (run : Run moves start log s) (fresh : start.Fresh)
    (closings : Nat → Closings) : (locked closings log).Holds s.cache.store := by
  induction run with
  | nil =>
    rw [fresh.store]
    exact ⟨rfl, .of_untracked rfl⟩
  | snoc run step ih =>
    rw [locked_snoc]
    exact ih.act rfl (run.reporting fresh) (step.effect (run.reporting fresh)) _

end Overlap

end SettingsCache
