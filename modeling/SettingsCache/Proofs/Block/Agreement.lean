import SettingsCache.Block.Faulty
import SettingsCache.Block.InProcess
import SettingsCache.Proofs.Block.Creation
import SettingsCache.Proofs.Block.Reference

/-!
# The agreement of generation blocks

Each kind of block gives the replies of the reference, to all that can be done with its handles and
its trackers (`Reference.replies_agree`): the block of one process always, the block with faults as
long as none is switched on and slots that there are are changed through open handles, and the block
in a file as long as its slots are changed through the handle that made it.
-/

namespace SettingsCache

/-! ## Blocks of one process -/

/-- The slots and the flags of a block stand for the reference. -/
structure Reference.Held (r : Reference) (slots : Slots) (closed : Array Bool) : Prop where
  size_slots : slots.size = r.length
  slots : ∀ index < r.length, slots[index]? = some (r.value index)
  size_closed : closed.size = r.handles
  closed : ∀ handle < r.handles, closed[handle]? = some (r.closed handle)

namespace Reference.Held

variable {r : Reference} {slots : Slots} {closed : Array Bool}

theorem new (length : Nat) : (Reference.new length).Held (Slots.zeroed length) #[false] where
  size_slots := Array.size_replicate
  slots _ hlt := Array.getElem?_replicate.trans (if_pos hlt)
  size_closed := rfl
  closed handle hlt := by
    obtain rfl := Nat.lt_one_iff.mp hlt
    rfl

theorem another (h : r.Held slots closed) : r.another.2.Held slots (closed.push false) where
  size_slots := h.size_slots
  slots := h.slots
  size_closed := (Array.size_push ..).trans (congrArg (· + 1) h.size_closed)
  closed handle hlt := by
    rw [Array.getElem?_push, h.size_closed]
    by_cases hnew : handle = r.handles
    · simp [Reference.another, hnew]
    · have hold : handle < r.handles := Nat.lt_of_le_of_ne (Nat.le_of_lt_succ hlt) hnew
      simp [Reference.another, hnew, h.closed handle hold]

theorem close (h : r.Held slots closed) (handle : Handle) :
    (r.close handle).2.Held slots (closed.setIfInBounds handle true) where
  size_slots := h.size_slots
  slots := h.slots
  size_closed := Array.size_setIfInBounds.trans h.size_closed
  closed other hlt := by
    have hsize : other < closed.size := Nat.lt_of_lt_of_eq hlt h.size_closed.symm
    rw [Array.getElem?_setIfInBounds, h.closed other hlt]
    by_cases hsame : handle = other
    · subst hsame
      simp [Reference.close, hsize]
    · simp [Reference.close, hsame, Ne.symm hsame]

theorem store (h : r.Held slots closed) (index : Nat) (value : Generation) :
    (r.store index value).Held (slots.write index value) closed where
  size_slots := Array.size_setIfInBounds.trans h.size_slots
  slots i hlt := by
    have hsize : i < slots.size := Nat.lt_of_lt_of_eq hlt h.size_slots.symm
    rw [Slots.write, Array.getElem?_setIfInBounds, h.slots i hlt]
    by_cases hsame : index = i
    · subst hsame
      simp [Reference.store, hsize]
    · simp [Reference.store, hsame, Ne.symm hsame]
  size_closed := h.size_closed
  closed := h.closed

/-- A handle that was opened is closed just if it is so in the reference. -/
theorem getD_closed (h : r.Held slots closed) {handle : Handle} (hlt : handle < r.handles) :
    closed.getD handle true = r.closed handle := by
  rw [Array.getD_eq_getD_getElem?, h.closed handle hlt]
  rfl

/-- A slot is read as in the reference, through a handle that is not closed. -/
theorem read (h : r.Held slots closed) {handle : Handle} (hopen : r.closed handle = false)
    (index : Nat) : slots.read index = r.view handle index := by
  unfold Slots.read Reference.view
  rw [h.size_slots]
  by_cases hlt : index < r.length
  · simp [h.slots index hlt, hopen, hlt]
  · rw [Array.getElem?_eq_none (h.size_slots ▸ Nat.le_of_not_lt hlt)]
    simp [hopen, hlt]

end Reference.Held

namespace InProcess

/-- A block of one process stands for the reference. -/
def Like (r : Reference) (b : InProcess) : Prop := r.Held b.slots b.closed

theorem view_eq {r : Reference} {b : InProcess} (h : Like r b) {handle : Handle}
    (hlt : handle < r.handles) (index : Nat) : b.view handle index = r.view handle index := by
  rw [view, isClosed, h.getD_closed hlt]
  cases hclosed : r.closed handle with
  | true => simp [Reference.view, hclosed]
  | false => exact h.read hclosed index

/-- Open another handle, which never fails. -/
def another (b : InProcess) : Answered InProcess Handle := (.ok b.handle.1, b.handle.2)

/-- A block of one process answers as the reference does, whatever is changed through which
handle. -/
theorem simulation : Simulation another id Like fun _ _ _ ↦ True where
  another h := ⟨congrArg Except.ok h.size_closed, h.another⟩
  length h _ _ := h.size_slots
  read h _ hlt index := ⟨view_eq h hlt index, h⟩
  write {r b} h handle hlt index _ value := by
    have hview := view_eq h hlt index
    simp only [GenerationBlock.write, write, Reference.update, id_eq, hview]
    cases r.view handle index with
    | error e => exact ⟨rfl, h⟩
    | ok old => exact ⟨rfl, h.store index value⟩
  increment {r b} h handle hlt index _ := by
    have hview := view_eq h hlt index
    simp only [GenerationBlock.increment, increment, Reference.update, id_eq, hview]
    cases r.view handle index with
    | error e => exact ⟨rfl, h⟩
    | ok old => exact ⟨rfl, h.store index (old + 1)⟩
  close h handle _ := ⟨rfl, h.close handle⟩
  isClosed h _ hlt := h.getD_closed hlt

end InProcess

namespace Faulty

/-- A block with faults, none of which is switched on, stands for the reference. -/
structure Like (r : Reference) (b : Faulty) : Prop where
  held : r.Held b.slots b.closed
  failReads : b.failReads = false
  failClose : b.failClose = false

/-- The handle is open and the slot is one of the block. -/
def InReach (r : Reference) (handle : Handle) (index : Nat) : Prop :=
  r.closed handle = false ∧ index < r.length

instance (r : Reference) (handle : Handle) (index : Nat) : Decidable (InReach r handle index) :=
  inferInstanceAs (Decidable (_ ∧ _))

/-- Open another handle, which never fails. -/
def another (b : Faulty) : Answered Faulty Handle := (.ok b.handle.1, b.handle.2)

theorem Like.store {r : Reference} {b : Faulty} (h : Like r b) (index : Nat) (value : Generation) :
    Like (r.store index value) (b.write index value) :=
  ⟨h.held.store index value, h.failReads, h.failClose⟩

theorem Like.view_eq {r : Reference} {b : Faulty} (h : Like r b) {handle : Handle}
    (hlt : handle < r.handles) (index : Nat) : b.view handle index = r.view handle index := by
  rw [view, isClosed, h.held.getD_closed hlt, h.failReads]
  cases hclosed : r.closed handle with
  | true => simp [Reference.view, hclosed]
  | false => exact h.held.read hclosed index

theorem Like.peek {r : Reference} {b : Faulty} (h : Like r b) {index : Nat}
    (hlt : index < r.length) : b.peek index = r.value index := by
  rw [Faulty.peek, Array.getD_eq_getD_getElem?, h.held.slots index hlt]
  rfl

/-- A block without a fault answers as the reference does, if slots that it has are changed through
open handles. -/
theorem simulation : Simulation another id Like InReach where
  another h := ⟨congrArg Except.ok h.held.size_closed, h.held.another, h.failReads, h.failClose⟩
  length h _ _ := h.held.size_slots
  read h _ hlt index := ⟨h.view_eq hlt index, h.held, h.failReads, h.failClose⟩
  write h handle _ index hreach value := by
    have hupdate := Reference.update_of_open hreach.1 hreach.2 fun _ ↦ value
    simp only [GenerationBlock.write, hupdate]
    exact ⟨rfl, h.store index value⟩
  increment h handle _ index hreach := by
    have hupdate := Reference.update_of_open hreach.1 hreach.2 (· + 1)
    simp only [GenerationBlock.increment, hupdate, increment, h.peek hreach.2]
    exact ⟨trivial, h.store index _⟩
  close h handle _ := by
    refine ⟨?_, h.held.close handle, h.failReads, h.failClose⟩
    simp [GenerationBlock.close, closeAnswer, h.failClose]
  isClosed h _ hlt := h.held.getD_closed hlt

end Faulty

namespace Directory

/-! ## Blocks in files -/

/-- A file of a directory stands for the reference, and its mappings, which come after so many
others, for the handles. The first was made by creating the file, the others by its path. -/
structure Maps (path : String) (number before : Nat) (r : Reference) (d : Directory) : Prop where
  checked : checkPath path = .ok ()
  found : d.find? path = some (number, d.file number)
  lt : number < d.files.size
  size : (d.file number).size = r.length * slotSize
  length_ne : r.length ≠ 0
  slots : ∀ index, slotOf (d.file number) index = r.value index
  pos : 0 < r.handles
  count : d.mappings.size = before + r.handles
  mappings : ∀ handle < r.handles, d.mappings[before + handle]? =
    some ⟨number, path, r.length, handle == 0, r.closed handle⟩

namespace Maps

variable {path : String} {number before : Nat} {r : Reference} {d : Directory}

theorem mapping (h : Maps path number before r d) {handle : Handle} (hlt : handle < r.handles) :
    d.mapping (before + handle) = ⟨number, path, r.length, handle == 0, r.closed handle⟩ := by
  rw [Directory.mapping, Array.getD_eq_getD_getElem?, h.mappings handle hlt]
  rfl

theorem view_eq (h : Maps path number before r d) {handle : Handle} (hlt : handle < r.handles)
    (index : Nat) : d.view (before + handle) index = r.view handle index := by
  rw [view, h.mapping hlt, Reference.view]
  dsimp only
  rw [h.slots]
  by_cases hlt : index < r.length
  · simp [hlt, Nat.not_le.mpr hlt]
  · simp [hlt, Nat.le_of_not_lt hlt]

/-- Storing the bytes of a value in a slot. -/
theorem store (h : Maps path number before r d) (index : Nat) (value : Generation) :
    Maps path number before (r.store index value)
      (d.setFile number ((d.file number).poke (index * slotSize) (encodeSlot value))) where
  checked := h.checked
  found := by
    obtain ⟨name, hname, hfound⟩ := Option.bind_eq_some_iff.mp h.found
    obtain ⟨n, hn, heq⟩ := Option.bind_eq_some_iff.mp hfound
    cases heq
    exact find?_of_named hname hn
  lt := by
    rw [size_files_setFile]
    exact h.lt
  size := by
    rw [file_setFile, if_pos ⟨rfl, h.lt⟩, File.size_poke]
    exact h.size
  length_ne := h.length_ne
  slots i := by
    rw [file_setFile, if_pos ⟨rfl, h.lt⟩, slotOf_poke, h.slots]
    rfl
  pos := h.pos
  count := h.count
  mappings := h.mappings

/-- Changing a slot by way of the handle that made the file. -/
theorem update (h : Maps path number before r d) (index : Nat)
    (f : Generation → Generation) :
    (d.update before index f).1 = (r.update 0 index f).1 ∧
      Maps path number before (r.update 0 index f).2 (d.update before index f).2 := by
  have hview := h.view_eq h.pos index
  have hmapping := h.mapping h.pos
  rw [Nat.add_zero] at hview hmapping
  unfold Directory.update Reference.update
  rw [hmapping, hview]
  cases r.view 0 index with
  | error e => exact ⟨rfl, h⟩
  | ok old => exact ⟨rfl, h.store index (f old)⟩

/-- Mapping the file once more, by its path. -/
theorem openFile (h : Maps path number before r d) :
    (d.openFile path).1 = .ok (before + r.handles) ∧
      Maps path number before r.another.2 (d.openFile path).2 := by
  have hsize : (d.file number).size ≠ 0 := by
    rw [h.size]
    exact Nat.mul_ne_zero h.length_ne (by decide)
  have hwhole : (d.file number).size % slotSize = 0 := by rw [h.size, Nat.mul_mod_left]
  have hlength : (d.file number).size / slotSize = r.length := by
    rw [h.size, Nat.mul_div_cancel _ (by decide)]
  have hopened : d.openFile path = d.map ⟨number, path, r.length, false, false⟩ := by
    simp [Directory.openFile, h.checked, h.found, hsize, hwhole, hlength]
  rw [hopened]
  refine ⟨congrArg Except.ok h.count, h.checked, h.found, h.lt, h.size, h.length_ne, h.slots,
    Nat.succ_pos _, ?_, ?_⟩
  · exact (Array.size_push ..).trans (congrArg (· + 1) h.count)
  · intro handle hlt
    rw [map, Array.getElem?_push, h.count]
    by_cases hnew : handle = r.handles
    · have hsecond : r.handles ≠ 0 := Nat.ne_of_gt h.pos
      simp [Reference.another, hnew, hsecond]
    · have hold : handle < r.handles := Nat.lt_of_le_of_ne (Nat.le_of_lt_succ hlt) hnew
      simp [Reference.another, hnew, h.mappings handle hold]

theorem close (h : Maps path number before r d) (handle : Handle) :
    Maps path number before (r.close handle).2 (d.close (before + handle)).2 where
  checked := h.checked
  found := h.found
  lt := h.lt
  size := h.size
  length_ne := h.length_ne
  slots := h.slots
  pos := h.pos
  count := Array.size_modify.trans h.count
  mappings other hlt := by
    simp only [Directory.close, Array.getElem?_modify, h.mappings other hlt]
    by_cases hsame : handle = other
    · simp [Reference.close, hsame]
    · simp [Reference.close, hsame, Ne.symm hsame]

end Maps

/-- A block in a file answers as the reference does, if slots are changed through the first handle
alone. -/
theorem simulation (path : String) (number before : Nat) :
    Simulation (openFile · path) (before + ·) (Maps path number before) fun _ handle _ ↦ handle = 0
    where
  another h := h.openFile
  length h handle hlt := congrArg Mapping.length (h.mapping hlt)
  read h handle hlt index := ⟨h.view_eq hlt index, h⟩
  write h handle hlt index hfirst value := by
    subst hfirst
    obtain ⟨hanswer, hmaps⟩ := h.update index fun _ ↦ value
    exact ⟨congrArg (Except.map _) hanswer, hmaps⟩
  increment h handle hlt index hfirst := by
    subst hfirst
    exact h.update index (· + 1)
  close h handle hlt := ⟨rfl, h.close handle⟩
  isClosed h handle hlt := congrArg Mapping.closed (h.mapping hlt)

/-- A block that was just made maps zeros. -/
theorem New.maps {d d' : Directory} {path : String} {length : UInt64} {handle : Handle}
    {number : Nat} (h : d.New path length handle number d') :
    Maps path number handle (Reference.new length.toNat) d' where
  checked := h.checked
  found := h.found
  lt := h.lt
  size := by
    obtain ⟨f, -, hfile⟩ := h.zeroed
    rw [hfile, File.size_resize]
    rfl
  length_ne := by
    intro hzero
    exact h.length_ne (UInt64.toNat_inj.mp hzero)
  slots index := by
    obtain ⟨f, hf, hfile⟩ := h.zeroed
    rw [hfile, slotOf_resize_of_empty hf]
    rfl
  pos := Nat.one_pos
  count := by
    rw [h.mappings, Array.size_push, h.handle_eq]
    rfl
  mappings k hk := by
    obtain rfl := Nat.lt_one_iff.mp hk
    rw [h.mappings, h.handle_eq]
    simp [Reference.new]

end Directory

/-! ## All kinds -/

/-- What is permitted whatever the state of the reference is permitted all along. -/
theorem Bench.permitted_of_forall {permits : Reference → Handle → Nat → Prop} {uses : List Use}
    (r : Bench Reference) (h : ∀ u ∈ uses, ∀ target ∈ u.target?,
      ∀ reference, permits reference target.1 target.2) : r.Permitted permits uses := by
  induction uses generalizing r with
  | nil => trivial
  | cons u rest ih =>
    rw [List.forall_mem_cons] at h
    exact ⟨fun target htarget ↦ h.1 target htarget _, ih _ h.2⟩

/-- Whatever is done with the handles of a block and with the trackers that are started over them,
the replies are those of the reference. The block of one process gives them always. The block
without a fault gives them if slots that there are are changed through open handles, and a block
that was made in a file, with handles opened by its path, if slots are changed through its first
handle alone. -/
theorem Reference.replies_agree (length : Nat) (uses : List Use) :
    let expected := (Bench.start (Reference.new length) 0).replies Reference.another uses
    (Bench.start (InProcess.new length) 0).replies InProcess.another uses = expected ∧
    ((Bench.start (Reference.new length) 0).Permitted Faulty.InReach uses →
      (Bench.start (Faulty.new length) 0).replies Faulty.another uses = expected) ∧
    ∀ (d d' : Directory) (host : Host) (path : String) (size : UInt64) (handle : Handle),
      d.Sound → d.create host path size = (.ok handle, d') → size.toNat = length →
      (∀ u ∈ uses, ∀ target ∈ u.target?, target.1 = 0) →
      (Bench.start d' handle).replies (Directory.openFile · path) uses = expected := by
  have hheld := Reference.Held.new length
  refine ⟨?_, ?_, ?_⟩
  · apply InProcess.simulation.replies
    · exact hheld
    · exact Bench.permitted_of_forall _ fun _ _ _ _ _ ↦ trivial
  · intro hpermitted
    exact Faulty.simulation.replies ⟨hheld, rfl, rfl⟩ hpermitted
  · intro d d' host path size handle hsound hmade hsize hfirst
    subst hsize
    obtain ⟨number, hnew⟩ := hsound.new hmade
    apply (Directory.simulation path number handle).replies hnew.maps
    exact Bench.permitted_of_forall _ fun u hu target htarget _ ↦ hfirst u hu target htarget

/-- What is done with two slots: one is set to the largest number and watched through a second
handle, it is counted up, and the second handle is closed. -/
def watched : List Use :=
  [.write 0 1 2147483647, .another, .adopt 1 1 2147483647 true, .check 0, .increment 0 1,
    .read 1 1, .check 0, .read 1 2, .close 1, .read 1 2, .check 0, .close 1, .isClosed 1,
    .isClosed 0, .read 0 1]

/-- All kinds of blocks wrap around, tell a closed handle before a slot that is not there, and close
one handle at a time; a tracker reports the handle that was closed under it. -/
theorem Reference.replies_agree_watched : ∃ d' : Directory,
    ({} : Directory).create (.below 4096) "block" 2 = (.ok 0, d') ∧
    ∃ replies : List Reply, replies =
        [.done, .done, .done, .checked false [] 2147483647 0, .value (-2147483648),
          .value (-2147483648), .checked true [] (-2147483648) 2, .failure (.outOfBounds 2 2),
          .done, .failure .closed, .checked true [.closed] (-2147483648) 2, .done, .flag true,
          .flag false, .value (-2147483648)] ∧
      (Bench.start (InProcess.new 2) 0).replies InProcess.another watched = replies ∧
      (Bench.start (Faulty.new 2) 0).replies Faulty.another watched = replies ∧
      (Bench.start d' 0).replies (Directory.openFile · "block") watched = replies := by
  obtain ⟨hprocess, hfaulty, hfile⟩ := Reference.replies_agree 2 watched
  refine ⟨(({} : Directory).create (.below 4096) "block" 2).2, rfl, _, rfl, ?_, ?_, ?_⟩
  · exact hprocess.trans (by decide)
  · exact (hfaulty (by decide)).trans (by decide)
  · exact (hfile {} _ (.below 4096) "block" 2 0 .empty rfl rfl (by decide)).trans (by decide)

end SettingsCache
