import SettingsCache.Tracker

/-!
# What a generation block is meant to be

The reference of all generation blocks is a value for each slot and, for each handle, whether it is
closed. A block of any kind is put on a `Bench`, with the handles that were opened onto it and the
trackers that were started over them, and is put to one `Use` after another. A kind of block whose
every operation answers as the reference does, in a state that is still like it, gives all the
replies of the reference (`Simulation.replies`).
-/

namespace SettingsCache

/-! ## The reference -/

/-- The value of each slot, and which handles are closed. Handles are numbered from 0. -/
structure Reference where
  length : Nat
  value : Nat → Generation
  handles : Nat
  closed : Handle → Bool

namespace Reference

/-- Slots that all hold zero, and one handle. -/
def new (length : Nat) : Reference :=
  { length := length, value := fun _ ↦ 0, handles := 1, closed := fun _ ↦ false }

/-- Open another handle. -/
def another (r : Reference) : Answered Reference Handle :=
  (.ok r.handles,
    { r with
      handles := r.handles + 1
      closed := fun handle ↦ if handle = r.handles then false else r.closed handle })

/-- What a handle reads from a slot. That it is closed is said before that there is no such slot. -/
def view (r : Reference) (handle : Handle) (index : Nat) : Except ArrayError Generation :=
  if r.closed handle then .error .closed
  else if index < r.length then .ok (r.value index)
  else .error (.outOfBounds index r.length)

/-- The reference with a value in a slot. -/
def store (r : Reference) (index : Nat) (value : Generation) : Reference :=
  { r with value := fun i ↦ if i = index then value else r.value i }

/-- Put a value computed from the old one into a slot that the handle can read. What fails changes
nothing. -/
def update (r : Reference) (handle : Handle) (index : Nat) (f : Generation → Generation) :
    Answered Reference Generation :=
  match r.view handle index with
  | .ok old => (.ok (f old), r.store index (f old))
  | .error e => (.error e, r)

/-- Close a handle, for good. -/
def close (r : Reference) (handle : Handle) : Answered Reference Unit :=
  (.ok (), { r with closed := fun other ↦ if other = handle then true else r.closed other })

instance : GenerationBlock Reference where
  length r _ := r.length
  read r handle index := (r.view handle index, r)
  write r handle index value :=
    ((r.update handle index fun _ ↦ value).1.map fun _ ↦ (),
      (r.update handle index fun _ ↦ value).2)
  increment r handle index := r.update handle index (· + 1)
  close := close
  isClosed r handle := r.closed handle

theorem view_of_open {r : Reference} {handle : Handle} {index : Nat}
    (hopen : r.closed handle = false) (hlt : index < r.length) :
    r.view handle index = .ok (r.value index) := by
  simp [view, hopen, hlt]

theorem update_of_open {r : Reference} {handle : Handle} {index : Nat}
    (hopen : r.closed handle = false) (hlt : index < r.length) (f : Generation → Generation) :
    r.update handle index f = (.ok (f (r.value index)), r.store index (f (r.value index))) := by
  rw [update, view_of_open hopen hlt]

@[simp] theorem handles_update (r : Reference) (handle : Handle) (index : Nat)
    (f : Generation → Generation) : (r.update handle index f).2.handles = r.handles := by
  unfold update
  cases r.view handle index <;> rfl

end Reference

/-! ## Uses -/

/-- What is done with a block: the handles, and the trackers, are named by their place in the order
of opening. -/
inductive Use where
  | another
  | length (k : Nat)
  | read (k index : Nat)
  | write (k index : Nat) (value : Generation)
  | increment (k index : Nat)
  | close (k : Nat)
  | isClosed (k : Nat)
  /-- Start a tracker of a slot. -/
  | track (k slot : Nat) (accepted : Generation) (reporting : Bool)
  /-- Start the tracker of a hand-over. -/
  | adopt (k : Nat) (index : Int32) (generation : Generation) (reporting : Bool)
  | check (n : Nat)
  | release (n : Nat)
  deriving DecidableEq

/-- The place of the handle and the slot that a use may change. -/
def Use.target? : Use → Option (Nat × Nat)
  | .write k index _ | .increment k index => some (k, index)
  | _ => none

/-- What is replied to a use. -/
inductive Reply where
  | done
  /-- There is no such handle or tracker. -/
  | absent
  | refused
  | flag (b : Bool)
  | length (n : Nat)
  | value (v : Generation)
  | failure (e : ArrayError)
  | checked (changed : Bool) (reports : List ArrayError) (accepted : Generation) (acceptedAt : Nat)
  | released (reports : List ArrayError)
  deriving DecidableEq

/-- A block, the handles that were opened onto it, and the trackers that were started. -/
structure Bench (β : Type) where
  block : β
  handles : List Handle
  trackers : List Tracker

namespace Bench

variable {β α : Type}

/-- A block with its first handle. -/
def start (block : β) (handle : Handle) : Bench β :=
  { block := block, handles := [handle], trackers := [] }

/-- Do something through a handle, if there is one at the place. -/
def through (b : Bench β) (k : Nat) (act : Handle → Reply × Bench β) : Reply × Bench β :=
  match b.handles[k]? with
  | some handle => act handle
  | none => (.absent, b)

/-- Do something with a tracker, if there is one at the place. -/
def withTracker (b : Bench β) (n : Nat) (act : Tracker → Reply × Bench β) : Reply × Bench β :=
  match b.trackers[n]? with
  | some t => act t
  | none => (.absent, b)

/-- Reply with what the block answered. -/
def answered (b : Bench β) (reply : α → Reply) (answer : Answered β α) : Reply × Bench β :=
  match answer.1 with
  | .ok a => (reply a, { b with block := answer.2 })
  | .error e => (.failure e, { b with block := answer.2 })

/-- Add a tracker, if one could be built. -/
def tracking (b : Bench β) : Option Tracker → Reply × Bench β
  | some t => (.done, { b with trackers := b.trackers ++ [t] })
  | none => (.refused, b)

variable [GenerationBlock β]

/-- The reply to a use, and the bench afterwards. Further handles are opened by `another`. -/
def use (another : β → Answered β Handle) (b : Bench β) : Use → Reply × Bench β
  | .another =>
    match another b.block with
    | (.ok handle, block) => (.done, { b with block := block, handles := b.handles ++ [handle] })
    | (.error e, block) => (.failure e, { b with block := block })
  | .length k => b.through k fun handle ↦ (.length (GenerationBlock.length b.block handle), b)
  | .read k index => b.through k fun handle ↦
    b.answered .value (GenerationBlock.read b.block handle index)
  | .write k index value => b.through k fun handle ↦
    b.answered (fun _ ↦ .done) (GenerationBlock.write b.block handle index value)
  | .increment k index => b.through k fun handle ↦
    b.answered .value (GenerationBlock.increment b.block handle index)
  | .close k => b.through k fun handle ↦
    b.answered (fun _ ↦ .done) (GenerationBlock.close b.block handle)
  | .isClosed k => b.through k fun handle ↦ (.flag (GenerationBlock.isClosed b.block handle), b)
  | .track k slot accepted reporting => b.through k fun handle ↦
    b.tracking (some { handle, slot, accepted, reporting })
  | .adopt k index generation reporting => b.through k fun handle ↦
    b.tracking (Tracker.ofHandOver?
      { handle, length := GenerationBlock.length b.block handle, index, generation } reporting)
  | .check n => b.withTracker n fun t ↦
    let (check, block) := t.checkOn b.block
    (.checked check.changed check.reports check.tracker.accepted check.tracker.acceptedAt,
      { b with block := block, trackers := b.trackers.set n check.tracker })
  | .release n => b.withTracker n fun t ↦
    let (reports, block) := t.release b.block
    (.released reports, { b with block := block })

/-- The replies to one use after another. -/
def replies (another : β → Answered β Handle) (b : Bench β) : List Use → List Reply
  | [] => []
  | u :: rest => (b.use another u).1 :: (b.use another u).2.replies another rest

/-- Every slot that is changed, and the handle by which it is, are as permitted at the time. -/
def Permitted (permits : Reference → Handle → Nat → Prop) (r : Bench Reference) : List Use → Prop
  | [] => True
  | u :: rest => (∀ target ∈ u.target?, permits r.block target.1 target.2) ∧
    (r.use Reference.another u).2.Permitted permits rest

instance decidablePermitted (permits : Reference → Handle → Nat → Prop)
    [∀ r handle index, Decidable (permits r handle index)] :
    (r : Bench Reference) → (uses : List Use) → Decidable (r.Permitted permits uses)
  | _, [] => .isTrue trivial
  | r, u :: rest =>
    have := decidablePermitted permits (r.use Reference.another u).2 rest
    inferInstanceAs (Decidable ((∀ target ∈ u.target?, permits r.block target.1 target.2) ∧
      (r.use Reference.another u).2.Permitted permits rest))

end Bench

/-! ## Simulation -/

/-- Blocks of a kind answer as the reference does where slots are changed as permitted, and stay
like it. Their handles have names of their own. -/
structure Simulation {β : Type} [GenerationBlock β] (another : β → Answered β Handle)
    (name : Handle → Handle) (Like : Reference → β → Prop)
    (permits : Reference → Handle → Nat → Prop) : Prop where
  another {r : Reference} {b : β} (h : Like r b) :
    (another b).1 = .ok (name r.handles) ∧ Like r.another.2 (another b).2
  length {r : Reference} {b : β} (h : Like r b) {handle : Handle} (hlt : handle < r.handles) :
    GenerationBlock.length b (name handle) = r.length
  read {r : Reference} {b : β} (h : Like r b) {handle : Handle} (hlt : handle < r.handles)
    (index : Nat) : (GenerationBlock.read b (name handle) index).1 = r.view handle index ∧
      Like r (GenerationBlock.read b (name handle) index).2
  write {r : Reference} {b : β} (h : Like r b) {handle : Handle} (hlt : handle < r.handles)
    {index : Nat} (hpermitted : permits r handle index) (value : Generation) :
    (GenerationBlock.write b (name handle) index value).1 =
        (GenerationBlock.write r handle index value).1 ∧
      Like (GenerationBlock.write r handle index value).2
        (GenerationBlock.write b (name handle) index value).2
  increment {r : Reference} {b : β} (h : Like r b) {handle : Handle} (hlt : handle < r.handles)
    {index : Nat} (hpermitted : permits r handle index) :
    (GenerationBlock.increment b (name handle) index).1 =
        (GenerationBlock.increment r handle index).1 ∧
      Like (GenerationBlock.increment r handle index).2
        (GenerationBlock.increment b (name handle) index).2
  close {r : Reference} {b : β} (h : Like r b) {handle : Handle} (hlt : handle < r.handles) :
    (GenerationBlock.close b (name handle)).1 = .ok () ∧
      Like (r.close handle).2 (GenerationBlock.close b (name handle)).2
  isClosed {r : Reference} {b : β} (h : Like r b) {handle : Handle} (hlt : handle < r.handles) :
    GenerationBlock.isClosed b (name handle) = r.closed handle

namespace Bench

variable {β α : Type} {name : Handle → Handle} {Like : Reference → β → Prop}
variable {r : Bench Reference} {b : Bench β}

/-- A tracker that reads through the handle of another name. -/
def renamed (name : Handle → Handle) (t : Tracker) : Tracker := { t with handle := name t.handle }

/-- A bench has the handles and the trackers of the reference's under other names, and a block that
is like the reference. -/
structure Alike (name : Handle → Handle) (Like : Reference → β → Prop) (r : Bench Reference)
    (b : Bench β) : Prop where
  block : Like r.block b.block
  numbered : r.handles = List.range r.block.handles
  handles : b.handles = r.handles.map name
  tracked : ∀ t ∈ r.trackers, t.handle < r.block.handles
  trackers : b.trackers = r.trackers.map (renamed name)

theorem check_renamed (name : Handle → Handle) (t : Tracker)
    (current : Except ArrayError Generation) : (renamed name t).check current =
      { t.check current with tracker := renamed name (t.check current).tracker } := by
  cases current with
  | error e => rfl
  | ok generation => by_cases h : generation = t.accepted <;> simp [Tracker.check, renamed, h]

theorem handle_check (t : Tracker) (current : Except ArrayError Generation) :
    (t.check current).tracker.handle = t.handle := by
  cases current with
  | error e => rfl
  | ok generation => by_cases h : generation = t.accepted <;> simp [Tracker.check, h]

theorem ofHandOver?_renamed (name : Handle → Handle) (handle : Handle) (length : Nat)
    (index : Int32) (generation : Generation) (reporting : Bool) :
    Tracker.ofHandOver? ⟨name handle, length, index, generation⟩ reporting =
      (Tracker.ofHandOver? ⟨handle, length, index, generation⟩ reporting).map (renamed name) := by
  rw [Tracker.ofHandOver?, Tracker.ofHandOver?, Option.map_map]
  rfl

theorem handle_ofHandOver? {h : HandOver} {reporting : Bool} {t : Tracker}
    (ht : Tracker.ofHandOver? h reporting = some t) : t.handle = h.handle := by
  obtain ⟨slot, -, rfl⟩ := Option.map_eq_some_iff.mp ht
  rfl

/-- The same reply, and benches that are alike. -/
def Matches (name : Handle → Handle) (Like : Reference → β → Prop) (x : Reply × Bench Reference)
    (y : Reply × Bench β) : Prop :=
  y.1 = x.1 ∧ Alike name Like x.2 y.2

namespace Alike

/-- Benches stay alike while their blocks do and no handle is opened. -/
theorem setBlock (h : Alike name Like r b) {reference : Reference} {block : β}
    (hlike : Like reference block) (hhandles : reference.handles = r.block.handles) :
    Alike name Like { r with block := reference } { b with block := block } where
  block := hlike
  numbered := h.numbered.trans (congrArg List.range hhandles.symm)
  handles := h.handles
  tracked t ht := Nat.lt_of_lt_of_eq (h.tracked t ht) hhandles.symm
  trackers := h.trackers

theorem through (h : Alike name Like r b) (k : Nat) {f : Handle → Reply × Bench Reference}
    {g : Handle → Reply × Bench β}
    (hact : k < r.block.handles → Matches name Like (f k) (g (name k))) :
    Matches name Like (r.through k f) (b.through k g) := by
  unfold Bench.through
  rw [h.handles, h.numbered, List.getElem?_map]
  by_cases hlt : k < r.block.handles
  · rw [List.getElem?_range hlt]
    exact hact hlt
  · rw [List.getElem?_eq_none (by simpa using hlt)]
    exact ⟨rfl, h⟩

theorem withTracker (h : Alike name Like r b) (n : Nat) {f : Tracker → Reply × Bench Reference}
    {g : Tracker → Reply × Bench β}
    (hact : ∀ t, t.handle < r.block.handles → Matches name Like (f t) (g (renamed name t))) :
    Matches name Like (r.withTracker n f) (b.withTracker n g) := by
  unfold Bench.withTracker
  rw [h.trackers, List.getElem?_map]
  cases ht : r.trackers[n]? with
  | some t => exact hact t (h.tracked t (List.mem_of_getElem? ht))
  | none => exact ⟨rfl, h⟩

theorem answered (h : Alike name Like r b) (reply : α → Reply) {x : Answered Reference α}
    {y : Answered β α} (hanswer : y.1 = x.1 ∧ Like x.2 y.2)
    (hhandles : x.2.handles = r.block.handles) :
    Matches name Like (r.answered reply x) (b.answered reply y) := by
  have halike := h.setBlock hanswer.2 hhandles
  unfold Bench.answered
  rw [hanswer.1]
  cases x.1 with
  | ok a => exact ⟨rfl, halike⟩
  | error e => exact ⟨rfl, halike⟩

theorem tracking (h : Alike name Like r b) {started : Option Tracker}
    (hstarted : ∀ t ∈ started, t.handle < r.block.handles) :
    Matches name Like (r.tracking started) (b.tracking (started.map (renamed name))) := by
  cases started with
  | none => exact ⟨rfl, h⟩
  | some t =>
    refine ⟨rfl, h.block, h.numbered, h.handles, ?_, ?_⟩
    · intro other hother
      rcases List.mem_append.mp hother with hother | hother
      · exact h.tracked other hother
      · rw [List.mem_singleton.mp hother]
        exact hstarted t rfl
    · simp [Bench.tracking, h.trackers]

variable [GenerationBlock β] {another : β → Answered β Handle}
variable {permits : Reference → Handle → Nat → Prop}

/-- Opening another handle. -/
theorem opened (s : Simulation another name Like permits) (h : Alike name Like r b) :
    Matches name Like (r.use Reference.another .another) (b.use another .another) := by
  obtain ⟨hanswer, hlike⟩ := s.another h.block
  have hopened : another b.block = (.ok (name r.block.handles), (another b.block).2) :=
    Prod.ext hanswer rfl
  unfold Bench.use
  rw [hopened]
  refine ⟨rfl, hlike, ?_, ?_, ?_, h.trackers⟩
  · exact (congrArg (· ++ _) h.numbered).trans List.range_succ.symm
  · simp [h.handles, Reference.another]
  · exact fun t ht ↦ Nat.lt_succ_of_lt (h.tracked t ht)

/-- Checking a tracker. -/
theorem checked (s : Simulation another name Like permits) (h : Alike name Like r b) (n : Nat) :
    Matches name Like (r.use Reference.another (.check n)) (b.use another (.check n)) := by
  refine h.withTracker n fun t hlt ↦ ?_
  obtain ⟨hanswer, hlike⟩ := s.read h.block hlt t.slot
  have hcheck : (renamed name t).checkOn b.block =
      ({ t.check (r.block.view t.handle t.slot) with
        tracker := renamed name (t.check (r.block.view t.handle t.slot)).tracker },
        (GenerationBlock.read b.block (name t.handle) t.slot).2) := by
    rw [← check_renamed, ← hanswer]
    rfl
  rw [hcheck]
  refine ⟨rfl, hlike, h.numbered, h.handles, ?_, ?_⟩
  · intro other hother
    rcases List.mem_or_eq_of_mem_set hother with hother | rfl
    · exact h.tracked other hother
    · rw [Tracker.checkOn, handle_check]
      exact hlt
  · simp [h.trackers, Tracker.checkOn, GenerationBlock.read]

/-- Giving a tracker up. -/
theorem released (s : Simulation another name Like permits) (h : Alike name Like r b) (n : Nat) :
    Matches name Like (r.use Reference.another (.release n)) (b.use another (.release n)) := by
  refine h.withTracker n fun t hlt ↦ ?_
  obtain ⟨hanswer, hlike⟩ := s.close h.block hlt
  have hrelease : (renamed name t).release b.block =
      ([], (GenerationBlock.close b.block (name t.handle)).2) := by
    have hclose : GenerationBlock.close b.block (name t.handle) =
        (.ok (), (GenerationBlock.close b.block (name t.handle)).2) := Prod.ext hanswer rfl
    unfold Tracker.release
    rw [renamed, hclose]
  rw [hrelease]
  exact ⟨rfl, h.setBlock hlike rfl⟩

/-- Benches that are alike reply the same and stay alike. -/
theorem use (s : Simulation another name Like permits) (h : Alike name Like r b) (u : Use)
    (hpermitted : ∀ target ∈ u.target?, permits r.block target.1 target.2) :
    Matches name Like (r.use Reference.another u) (b.use another u) := by
  cases u with
  | another => exact h.opened s
  | length k =>
    refine h.through k fun hlt ↦ ?_
    rw [s.length h.block hlt]
    exact ⟨rfl, h⟩
  | read k index => exact h.through k fun hlt ↦ h.answered _ (s.read h.block hlt index) rfl
  | write k index value =>
    exact h.through k fun hlt ↦ h.answered _ (s.write h.block hlt (hpermitted (k, index) rfl) value)
      (Reference.handles_update ..)
  | increment k index =>
    exact h.through k fun hlt ↦ h.answered _ (s.increment h.block hlt (hpermitted (k, index) rfl))
      (Reference.handles_update ..)
  | close k => exact h.through k fun hlt ↦ h.answered _ (s.close h.block hlt) rfl
  | isClosed k =>
    refine h.through k fun hlt ↦ ?_
    rw [s.isClosed h.block hlt]
    exact ⟨rfl, h⟩
  | track k slot accepted reporting =>
    exact h.through k fun hlt ↦ h.tracking fun t ht ↦ by
      obtain rfl := Option.some.inj ht
      exact hlt
  | adopt k index generation reporting =>
    refine h.through k fun hlt ↦ ?_
    rw [s.length h.block hlt]
    rw [ofHandOver?_renamed]
    exact h.tracking fun t ht ↦ Nat.lt_of_le_of_lt (Nat.le_of_eq (handle_ofHandOver? ht)) hlt
  | check n => exact h.checked s n
  | release n => exact h.released s n

end Alike

/-- Whatever benches that are alike are put to, they reply the same. -/
theorem Alike.replies [GenerationBlock β] {another : β → Answered β Handle}
    {permits : Reference → Handle → Nat → Prop} (s : Simulation another name Like permits)
    (h : Alike name Like r b) (uses : List Use) (hpermitted : r.Permitted permits uses) :
    b.replies another uses = r.replies Reference.another uses := by
  induction uses generalizing r b with
  | nil => rfl
  | cons u rest ih =>
    obtain ⟨hreply, halike⟩ := h.use s u hpermitted.1
    rw [replies, replies, hreply, ih halike hpermitted.2]

end Bench

/-- A block that is like the reference replies as the reference does, whatever they are put to. -/
theorem Simulation.replies {β : Type} [GenerationBlock β] {another : β → Answered β Handle}
    {name : Handle → Handle} {Like : Reference → β → Prop}
    {permits : Reference → Handle → Nat → Prop} (s : Simulation another name Like permits)
    {length : Nat} {block : β} (hlike : Like (Reference.new length) block) {uses : List Use}
    (hpermitted : (Bench.start (Reference.new length) 0).Permitted permits uses) :
    (Bench.start block (name 0)).replies another uses =
      (Bench.start (Reference.new length) 0).replies Reference.another uses :=
  have halike : Bench.Alike name Like (Bench.start (Reference.new length) 0)
      (Bench.start block (name 0)) :=
    ⟨hlike, rfl, rfl, fun _ ht ↦ absurd ht List.not_mem_nil, rfl⟩
  halike.replies s uses hpermitted

end SettingsCache
