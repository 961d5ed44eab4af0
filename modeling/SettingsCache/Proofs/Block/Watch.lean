import Mathlib.Algebra.Group.Nat.Defs
import SettingsCache.Proofs.Block.Directory
import SettingsCache.Proofs.Counter
import SettingsCache.Block.Faulty
import SettingsCache.Block.InProcess
import SettingsCache.Tracker

/-!
# Slots that are watched

A tracker watches a slot of a block of any kind while slots are set and counted up, handles are
closed, and faults come and go. What is done to the slot, what the checks see there and what the
owner of the tracker hears are recorded apart from what the tracker makes of it. Each kind of block
is `Truthful`: it reads what its slots hold, and these change as it is said.
-/

namespace SettingsCache

/-! ## Blocks that are watched -/

/-- A kind of block of which it can be said what the slots hold, whatever the handles answer. -/
class WatchedBlock (β : Type) extends GenerationBlock β where
  /-- What the slot of an index holds, if a handle has one. -/
  held? : β → Handle → Nat → Option Generation
  /-- Whether two handles have the same slots. -/
  alike : β → Handle → Handle → Bool
  /-- Whether a handle may change slots. -/
  writable : β → Handle → Bool := fun _ _ ↦ true
  /-- Whether reads are made to fail. -/
  readsFail : β → Bool := fun _ ↦ false
  /-- Whether closes are made to fail. -/
  closesFail : β → Bool := fun _ ↦ false
  /-- Make reads fail, or succeed again. A kind of block without faults is left as it is. -/
  failReads : β → Bool → β := fun block _ ↦ block
  /-- Make closes fail, or succeed again. -/
  failClose : β → Bool → β := fun block _ ↦ block

instance : WatchedBlock InProcess where
  held? b _ index := b.slots[index]?
  alike _ _ _ := true

instance : WatchedBlock Faulty where
  held? b _ index := b.slots[index]?
  alike _ _ _ := true
  readsFail := Faulty.failReads
  closesFail := Faulty.failClose
  failReads b on := { b with failReads := on }
  failClose b on := { b with failClose := on }

instance : WatchedBlock Directory where
  held? d handle index :=
    if index < (d.mapping handle).length then
      some (Directory.slotOf (d.file (d.mapping handle).file) index)
    else none
  alike d handle other := (d.mapping handle).file == (d.mapping other).file
  writable d handle := (d.mapping handle).writable

/-- A slot that is there can be set and counted up through an open handle that may change slots. -/
def WatchedBlock.Changeable {β : Type} [WatchedBlock β] (block : β) : Prop :=
  ∀ (handle : Handle) (index : Nat) (value : Generation),
    GenerationBlock.isClosed block handle = false → writable block handle = true →
    (held? block handle index).isSome = true →
      (GenerationBlock.write block handle index value).1.isOk = true ∧
        (GenerationBlock.increment block handle index).1.isOk = true

/-- A tracker and the block that it watches. -/
structure Watch (β : Type) where
  tracker : Tracker
  block : β

namespace Watch

/-- What happens to a block under the eyes of a tracker. -/
inductive Event where
  /-- The tracker checks its slot. -/
  | check
  | write (handle : Handle) (index : Nat) (value : Generation)
  | increment (handle : Handle) (index : Nat)
  | close (handle : Handle)
  | failReads (on : Bool)
  | failClose (on : Bool)
  deriving DecidableEq

variable {β : Type} [WatchedBlock β]

/-- What reading the slot gives. -/
def reading (w : Watch β) : Except ArrayError Generation :=
  (GenerationBlock.read w.block w.tracker.handle w.tracker.slot).1

/-- What the slot holds, if there is one. -/
def held? (w : Watch β) : Option Generation :=
  WatchedBlock.held? w.block w.tracker.handle w.tracker.slot

/-- The outcome of a check. -/
def check (w : Watch β) : Check := (w.tracker.checkOn w.block).1

/-- What comes after an event. -/
def next (w : Watch β) : Event → Watch β
  | .check => ⟨w.check.tracker, (w.tracker.checkOn w.block).2⟩
  | .write handle index value =>
    { w with block := (GenerationBlock.write w.block handle index value).2 }
  | .increment handle index =>
    { w with block := (GenerationBlock.increment w.block handle index).2 }
  | .close handle => { w with block := (GenerationBlock.close w.block handle).2 }
  | .failReads on => { w with block := WatchedBlock.failReads w.block on }
  | .failClose on => { w with block := WatchedBlock.failClose w.block on }

/-- What comes after one event after another. -/
def play (w : Watch β) (events : List Event) : Watch β := events.foldl next w

/-! ### Records -/

/-- Whether a change made through a handle goes to the slot. -/
def aims (w : Watch β) (handle : Handle) (index : Nat) : Bool :=
  WatchedBlock.alike w.block handle w.tracker.handle && index == w.tracker.slot

/-- What an event does to the slot, unless it is refused. -/
def touch? (w : Watch β) : Event → Option Touch
  | .write handle index value =>
    if w.aims handle index && (GenerationBlock.write w.block handle index value).1.isOk then
      some (.set value)
    else none
  | .increment handle index =>
    if w.aims handle index && (GenerationBlock.increment w.block handle index).1.isOk then
      some .bump
    else none
  | _ => none

/-- What a check that can read the slot sees there. -/
def sees? (w : Watch β) : Event → Option Generation
  | .check => if w.reading.isOk then w.held? else none
  | _ => none

/-- What the owner of the tracker hears at an event. -/
def hears (w : Watch β) : Event → List ArrayError
  | .check => w.check.reports
  | _ => []

/-- The failure that a check meets. -/
def failure? (w : Watch β) : Event → Option ArrayError
  | .check =>
    match w.reading with
    | .ok _ => none
    | .error e => some e
  | _ => none

/-- What is recorded of each event, one event after another. -/
def record {α : Type} (of : Watch β → Event → List α) (w : Watch β) : List Event → List α
  | [] => []
  | e :: rest => of w e ++ record of (w.next e) rest

/-- What was done to the slot. -/
def touches (w : Watch β) (events : List Event) : List Touch :=
  record (fun w e ↦ (w.touch? e).toList) w events

/-- What the checks that could read the slot have seen there. -/
def seen (w : Watch β) (events : List Event) : List Generation :=
  record (fun w e ↦ (w.sees? e).toList) w events

/-- What the owner has heard. -/
def heard (w : Watch β) (events : List Event) : List ArrayError := record hears w events

/-- The failures of the checks. -/
def failures (w : Watch β) (events : List Event) : List ArrayError :=
  record (fun w e ↦ (w.failure? e).toList) w events

/-! ### Checks -/

/-- The ways in which a check can go. -/
theorem check_outcome (w : Watch β) :
    (w.reading = .ok w.tracker.accepted ∧ w.check =
      ⟨{ w.tracker with checks := w.tracker.checks + 1 }, false, []⟩) ∨
    (∃ value, w.reading = .ok value ∧ value ≠ w.tracker.accepted ∧ w.check =
      ⟨{ w.tracker with
        checks := w.tracker.checks + 1
        accepted := value
        acceptedAt := w.tracker.checks + 1 }, true, []⟩) ∨
    ∃ e, w.reading = .error e ∧ w.check =
      ⟨{ w.tracker with checks := w.tracker.checks + 1 }, true, w.tracker.report e⟩ := by
  change (_ ∧ w.tracker.check w.reading = _) ∨ (∃ value, _ ∧ _ ∧ w.tracker.check w.reading = _) ∨
    ∃ e, _ ∧ w.tracker.check w.reading = _
  cases w.reading with
  | error e => exact .inr (.inr ⟨e, rfl, rfl⟩)
  | ok value =>
    by_cases h : value = w.tracker.accepted
    · exact .inl ⟨congrArg _ h, by simp [Tracker.check, h]⟩
    · exact .inr (.inl ⟨value, rfl, h, by simp [Tracker.check, h]⟩)

/-- A check that can read the slot accepts what it reads, and reports nothing. -/
theorem check_of_ok {w : Watch β} {value : Generation} (h : w.reading = .ok value) :
    w.check.tracker.accepted = value ∧ w.check.reports = [] := by
  change (w.tracker.check w.reading).tracker.accepted = value ∧
    (w.tracker.check w.reading).reports = []
  rw [h]
  by_cases heq : value = w.tracker.accepted <;> simp [Tracker.check, heq]

/-- A check that cannot read the slot counts as a change, and accepts nothing. -/
theorem check_of_error {w : Watch β} {e : ArrayError} (h : w.reading = .error e) :
    w.check =
      ⟨{ w.tracker with checks := w.tracker.checks + 1 }, true, w.tracker.report e⟩ := by
  change w.tracker.check w.reading = _
  rw [h]
  rfl

/-- A check leaves the slot that is watched. -/
theorem held?_check (w : Watch β) : (w.next .check).held? =
    WatchedBlock.held? (GenerationBlock.read w.block w.tracker.handle w.tracker.slot).2
      w.tracker.handle w.tracker.slot := by
  change WatchedBlock.held? _ w.check.tracker.handle w.check.tracker.slot = _
  rcases w.check_outcome with ⟨-, heq⟩ | ⟨value, -, -, heq⟩ | ⟨e, -, heq⟩ <;> rw [heq] <;> rfl

end Watch

/-! ## Kinds of blocks -/

/-- In states that are fit, a kind of block reads what its slots hold, and these change as it is
said. -/
structure Truthful (β : Type) [WatchedBlock β] (Fit : β → Prop) : Prop where
  /-- A handle reads a slot just if it is open, reads do not fail and there is the slot, and then it
  reads what the slot holds. -/
  read : ∀ {block : β} (handle : Handle) (index : Nat) (value : Generation), Fit block →
    ((GenerationBlock.read block handle index).1 = .ok value ↔
      GenerationBlock.isClosed block handle = false ∧ WatchedBlock.readsFail block = false ∧
        WatchedBlock.held? block handle index = some value)
  changeable : ∀ {block : β}, Fit block → WatchedBlock.Changeable block
  /-- A close fails just if it is made to. -/
  close : ∀ {block : β} (handle : Handle), Fit block →
    (GenerationBlock.close block handle).1.isOk = !WatchedBlock.closesFail block
  fit : ∀ {w : Watch β} (e : Watch.Event), Fit w.block → Fit (w.next e).block
  held : ∀ {w : Watch β} (e : Watch.Event), Fit w.block →
    (w.next e).held? = w.held?.map fun v ↦ Touch.applyAll v (w.touch? e).toList

namespace Slots

theorem getElem?_write (slots : Slots) (index : Nat) (value : Generation) (i : Nat) :
    (slots.write index value)[i]? = slots[i]?.map fun v ↦ if index = i then value else v := by
  rw [write, Array.getElem?_setIfInBounds]
  by_cases h : index = i
  · subst h
    by_cases hlt : index < slots.size <;> simp [hlt]
  · simp [h]

theorem read_eq_ok_iff (slots : Slots) (index : Nat) (value : Generation) :
    slots.read index = .ok value ↔ slots[index]? = some value := by
  unfold read
  cases slots[index]? <;> simp

/-- Changing a slot by what it holds. -/
theorem getElem?_write_of_eq {slots : Slots} {index : Nat} {f : Generation → Generation}
    {value : Generation} (h : ∀ v, slots[index]? = some v → value = f v) (i : Nat) :
    (slots.write index value)[i]? = slots[i]?.map fun v ↦ if index = i then f v else v := by
  rw [getElem?_write]
  by_cases heq : index = i
  · subst heq
    cases hv : slots[index]? with
    | none => rfl
    | some v => simp [h v hv]
  · simp [heq]

end Slots

/-- A touch that may be refused. -/
theorem Touch.applyAll_ite (v : Generation) (c : Bool) (t : Touch) :
    applyAll v (if c then some t else none).toList = if c then t.apply v else v := by
  cases c <;> rfl

namespace InProcess

theorem view_eq_ok_iff (b : InProcess) (handle : Handle) (index : Nat) (value : Generation) :
    b.view handle index = .ok value ↔
      b.isClosed handle = false ∧ b.slots[index]? = some value := by
  unfold view
  cases b.isClosed handle <;> simp [Slots.read_eq_ok_iff]

/-- Setting a slot is refused, and then nothing happens, or goes through. -/
theorem write_outcome (b : InProcess) (handle : Handle) (index : Nat) (value : Generation) :
    (∃ e, b.write handle index value = (.error e, b)) ∨
      b.write handle index value = (.ok (), { b with slots := b.slots.write index value }) := by
  unfold write
  cases b.view handle index with
  | error e => exact .inl ⟨e, rfl⟩
  | ok old => exact .inr rfl

/-- Counting a slot up is refused, and then nothing happens, or goes through. -/
theorem increment_outcome (b : InProcess) (handle : Handle) (index : Nat) :
    (∃ e, b.increment handle index = (.error e, b)) ∨
      ∃ old, b.slots[index]? = some old ∧ b.increment handle index =
        (.ok (old + 1), { b with slots := b.slots.write index (old + 1) }) := by
  unfold increment
  cases hview : b.view handle index with
  | error e => exact .inl ⟨e, rfl⟩
  | ok old => exact .inr ⟨old, ((b.view_eq_ok_iff handle index old).mp hview).2, rfl⟩

theorem truthful : Truthful InProcess fun _ ↦ True where
  read {b} handle index value _ := by
    refine (b.view_eq_ok_iff handle index value).trans ?_
    simp [GenerationBlock.isClosed, WatchedBlock.readsFail, WatchedBlock.held?]
  changeable {b} _ handle index value hopen _ hheld := by
    obtain ⟨old, hold⟩ := Option.isSome_iff_exists.mp hheld
    have hview : b.view handle index = .ok old :=
      (b.view_eq_ok_iff handle index old).mpr ⟨hopen, hold⟩
    change (b.write handle index value).1.isOk = true ∧ (b.increment handle index).1.isOk = true
    rw [write, increment, hview]
    exact ⟨rfl, rfl⟩
  close _ _ := rfl
  fit _ _ := trivial
  held {w} e _ := by
    obtain ⟨t, b⟩ := w
    cases e with
    | write handle index value =>
      simp only [Watch.touch?, Touch.applyAll_ite]
      change (b.write handle index value).2.slots[t.slot]? = b.slots[t.slot]?.map fun v ↦
        if true && index == t.slot && (b.write handle index value).1.isOk then value else v
      rcases b.write_outcome handle index value with ⟨e, heq⟩ | heq
      · simp [heq, Except.isOk, Except.toBool]
      · simp [heq, Except.isOk, Except.toBool, Slots.getElem?_write]
    | increment handle index =>
      simp only [Watch.touch?, Touch.applyAll_ite]
      change (b.increment handle index).2.slots[t.slot]? = b.slots[t.slot]?.map fun v ↦
        if true && index == t.slot && (b.increment handle index).1.isOk then v + 1 else v
      rcases b.increment_outcome handle index with ⟨e, heq⟩ | ⟨old, hold, heq⟩
      · simp [heq, Except.isOk, Except.toBool]
      · have hnew : ∀ v, b.slots[index]? = some v → old + 1 = v + 1 := fun v hv ↦
          congrArg (· + 1) (Option.some.inj (hold.symm.trans hv))
        simp [heq, Except.isOk, Except.toBool, Slots.getElem?_write_of_eq hnew]
    | check =>
      rw [Watch.held?_check]
      exact Option.map_id'.symm
    | close | failReads | failClose => exact Option.map_id'.symm

end InProcess

namespace Faulty

theorem truthful : Truthful Faulty fun _ ↦ True where
  read {b} handle index value _ := by
    change b.view handle index = .ok value ↔
      b.isClosed handle = false ∧ b.failReads = false ∧ b.slots[index]? = some value
    unfold view
    cases b.isClosed handle <;> cases b.failReads <;> simp [Slots.read_eq_ok_iff]
  changeable _ _ _ _ _ _ _ := ⟨rfl, rfl⟩
  close {b} handle _ := by
    change b.closeAnswer.isOk = !b.failClose
    unfold closeAnswer
    cases b.failClose <;> rfl
  fit _ _ := trivial
  held {w} e _ := by
    obtain ⟨t, b⟩ := w
    cases e with
    | write handle index value =>
      simp only [Watch.touch?, Touch.applyAll_ite]
      change (b.slots.write index value)[t.slot]? = b.slots[t.slot]?.map fun v ↦
        if true && index == t.slot && true then value else v
      simp [Slots.getElem?_write]
    | increment handle index =>
      simp only [Watch.touch?, Touch.applyAll_ite]
      change (b.slots.write index (b.peek index + 1))[t.slot]? = b.slots[t.slot]?.map fun v ↦
        if true && index == t.slot && true then v + 1 else v
      have hnew : ∀ v, b.slots[index]? = some v → b.peek index + 1 = v + 1 := by
        intro v hv
        rw [peek, Array.getD_eq_getD_getElem?, hv]
        rfl
      simp [Slots.getElem?_write_of_eq hnew]
    | check =>
      rw [Watch.held?_check]
      exact Option.map_id'.symm
    | close | failReads | failClose => exact Option.map_id'.symm

end Faulty

namespace Directory

theorem view_eq_ok_iff (d : Directory) (handle : Handle) (index : Nat) (value : Generation) :
    d.view handle index = .ok value ↔ (d.mapping handle).closed = false ∧
      WatchedBlock.held? d handle index = some value := by
  unfold view
  change _ ↔ _ ∧ (if index < (d.mapping handle).length then
    some (slotOf (d.file (d.mapping handle).file) index) else none) = some value
  dsimp only
  cases (d.mapping handle).closed with
  | true => simp
  | false =>
    by_cases hlt : index < (d.mapping handle).length
    · simp [hlt, Nat.not_le.mpr hlt]
    · simp [hlt, Nat.le_of_not_lt hlt]

/-- A mapping that can be written is one that was made, and its file is there. -/
theorem Sound.file_lt {d : Directory} (h : d.Sound) {handle : Handle}
    (hwritable : (d.mapping handle).writable = true) :
    (d.mapping handle).file < d.files.size := by
  rw [mapping, Array.getD_eq_getD_getElem?] at hwritable ⊢
  cases hmapping : d.mappings[handle]? with
  | none =>
    rw [hmapping] at hwritable
    exact absurd hwritable Bool.false_ne_true
  | some m => exact h.mappings m (Array.mem_of_getElem? hmapping)

theorem writable_of_update {d d' : Directory} {handle : Handle} {index : Nat}
    {f : Generation → Generation} {value : Generation}
    (h : d.update handle index f = (.ok value, d')) : (d.mapping handle).writable = true := by
  cases hwritable : (d.mapping handle).writable with
  | true => rfl
  | false => simp [update, hwritable] at h

/-- A slot that is there can be changed through an open mapping that was made to write. -/
theorem isOk_update (d : Directory) {handle : Handle} {index : Nat}
    (hopen : (d.mapping handle).closed = false) (hwritable : (d.mapping handle).writable = true)
    (hheld : (WatchedBlock.held? d handle index).isSome = true) (f : Generation → Generation) :
    (d.update handle index f).1.isOk = true := by
  obtain ⟨old, hold⟩ := Option.isSome_iff_exists.mp hheld
  have hview : d.view handle index = .ok old :=
    (d.view_eq_ok_iff handle index old).mpr ⟨hopen, hold⟩
  simp [update, hwritable, hview, Except.isOk, Except.toBool]

/-- What the slots hold after one was changed by way of a mapping. -/
theorem held?_update {d : Directory} (h : d.Sound) (handle : Handle) (index : Nat)
    (f : Generation → Generation) (other : Handle) (i : Nat) :
    WatchedBlock.held? (d.update handle index f).2 other i =
      (WatchedBlock.held? d other i).map fun v ↦
        if WatchedBlock.alike d handle other && index == i && (d.update handle index f).1.isOk then
          f v
        else v := by
  rcases d.update_outcome handle index f with ⟨e, heq⟩ | ⟨value, hvalue, heq⟩
  · simp [heq, Except.isOk, Except.toBool]
  · have hslot : slotOf ((d.update handle index f).2.file (d.mapping other).file) i =
        if (d.mapping handle).file = (d.mapping other).file ∧ index = i then
          f (slotOf (d.file (d.mapping other).file) i)
        else slotOf (d.file (d.mapping other).file) i := by
      rw [heq]
      dsimp only
      rw [file_setFile]
      by_cases hfile : (d.mapping handle).file = (d.mapping other).file
      · have hlt : (d.mapping other).file < d.files.size :=
          hfile ▸ h.file_lt (writable_of_update heq)
        rw [if_pos ⟨hfile.symm, hlt⟩, slotOf_poke, ← hfile]
        by_cases hindex : i = index
        · rw [if_pos hindex, if_pos ⟨rfl, hindex.symm⟩, hvalue, hindex]
        · rw [if_neg hindex, if_neg fun hboth ↦ hindex hboth.2.symm]
      · rw [if_neg fun hboth ↦ hfile hboth.1.symm, if_neg fun hboth ↦ hfile hboth.1]
    have hmapping : (d.update handle index f).2.mapping other = d.mapping other := by
      rw [heq]
      rfl
    have hok : (d.update handle index f).1.isOk = true := by
      rw [heq]
      rfl
    simp only [WatchedBlock.held?, WatchedBlock.alike, hmapping, hslot, hok]
    by_cases hlt : i < (d.mapping other).length
    · simp [hlt]
    · simp [hlt]

theorem truthful : Truthful Directory Sound where
  read {d} handle index value _ := by
    refine (d.view_eq_ok_iff handle index value).trans ?_
    simp [GenerationBlock.isClosed, WatchedBlock.readsFail]
  changeable {d} _ handle index value hopen hwritable hheld := by
    have hupdate := d.isOk_update hopen hwritable hheld
    exact ⟨(d.isOk_write ..).trans (hupdate _), hupdate _⟩
  close _ _ := rfl
  fit {w} e h := by
    obtain ⟨t, d⟩ := w
    cases e with
    | write handle index value => exact h.change (.write handle index value)
    | increment handle index => exact h.change (.increment handle index)
    | close handle => exact h.close handle
    | check | failReads | failClose => exact h
  held {w} e h := by
    obtain ⟨t, d⟩ := w
    cases e with
    | write handle index value =>
      simp only [Watch.touch?, Touch.applyAll_ite]
      rw [isOk_write]
      exact held?_update h handle index (fun _ ↦ value) t.handle t.slot
    | increment handle index =>
      simp only [Watch.touch?, Touch.applyAll_ite]
      exact held?_update h handle index (· + 1) t.handle t.slot
    | close handle =>
      obtain ⟨closed, hmapping⟩ := d.mapping_close handle t.handle
      change WatchedBlock.held? (d.close handle).2 t.handle t.slot = _
      simp only [WatchedBlock.held?, hmapping]
      exact Option.map_id'.symm
    | check =>
      rw [Watch.held?_check]
      exact Option.map_id'.symm
    | failReads | failClose => exact Option.map_id'.symm

end Directory

end SettingsCache
