import Mathlib.Data.List.Basic
import SettingsCache.Proofs.Block.Codec
import SettingsCache.Proofs.Block.Creation

/-!
# The format of block files

Any bytes that make up slots are a block file, and a slot of it reads as the number that its four
bytes stand for. The file of a block that was made holds the bytes of its slots and no others,
whatever has been done with the arrays of the directory: a change that goes through has changed its
own slot, and one that is refused has changed nothing (`Sound.block_file_exact`).
-/

namespace SettingsCache.Directory

variable {d d' : Directory} {path : String} {length : UInt64} {number : Nat}
variable {slots : List Generation}

/-! ## Changes of slots -/

/-- The mapping and the slot that a change is to change. -/
def Change.target? : Change → Option (Handle × Nat)
  | .write handle index _ | .increment handle index => some (handle, index)
  | _ => none

/-- A change of a slot of a file goes through. -/
def stores (d : Directory) (number : Nat) : Change → Bool
  | .write handle index value =>
    (d.mapping handle).file == number && (GenerationBlock.write d handle index value).1.isOk
  | .increment handle index =>
    (d.mapping handle).file == number && (GenerationBlock.increment d handle index).1.isOk
  | _ => false

theorem stores_write (d : Directory) (number : Nat) (handle : Handle) (index : Nat)
    (value : Generation) :
    d.stores number (.write handle index value) =
      ((d.mapping handle).file == number && (d.update handle index fun _ ↦ value).1.isOk) :=
  congrArg (_ && ·) (d.isOk_write handle index value)

/-- The slots of a file after a change, by what the change is meant to do. -/
def recorded (d : Directory) (number : Nat) (slots : List Generation) (c : Change) :
    List Generation :=
  if d.stores number c then
    match c with
    | .write _ index value => slots.set index value
    | .increment _ index => slots.modify index (· + 1)
    | _ => slots
  else slots

/-- The slots of a file after one change after another. -/
def recordedAll (d : Directory) (number : Nat) (slots : List Generation) :
    List Change → List Generation
  | [] => slots
  | c :: rest => (d.change c).recordedAll number (d.recorded number slots c) rest

/-- A file holds slots. -/
structure Holds (d : Directory) (number : Nat) (slots : List Generation) : Prop where
  lt : number < d.files.size
  size : (d.file number).size = 4 * slots.length
  slot : ∀ (i : Nat) (h : i < slots.length), slotOf (d.file number) i = slots[i]

namespace Holds

theorem content (h : d.Holds number slots) : (d.file number).content = encodeSlots slots :=
  content_eq_encodeSlots h.size h.slot

/-- Storing the bytes of a value in a slot. -/
theorem poke (h : d.Holds number slots) (index : Nat) (value : Generation) :
    (d.setFile number ((d.file number).poke (index * slotSize) (encodeSlot value))).Holds number
      (slots.set index value) where
  lt := by
    rw [size_files_setFile]
    exact h.lt
  size := by
    rw [file_setFile, if_pos ⟨rfl, h.lt⟩, File.size_poke, List.length_set]
    exact h.size
  slot i hi := by
    rw [List.length_set] at hi
    rw [file_setFile, if_pos ⟨rfl, h.lt⟩, slotOf_poke, List.getElem_set]
    by_cases heq : i = index
    · simp [heq]
    · rw [if_neg heq, if_neg (Ne.symm heq)]
      exact h.slot i hi

/-- Another file makes no difference. -/
theorem other (h : d.Holds number slots) {n : Nat} (hne : n ≠ number) (f : File) :
    (d.setFile n f).Holds number slots := by
  have hfile : (d.setFile n f).file number = d.file number := by
    rw [file_setFile, if_neg fun heq ↦ hne heq.1.symm]
  refine ⟨?_, ?_, ?_⟩
  · rw [size_files_setFile]
    exact h.lt
  · rw [hfile]
    exact h.size
  · rw [hfile]
    exact h.slot

/-- Changing a slot of a file by way of a mapping of it changes the slot, if it is not refused. -/
theorem update (h : d.Holds number slots) (handle : Handle) (index : Nat)
    (f : Generation → Generation) :
    (d.update handle index f).2.Holds number
      (if (d.mapping handle).file == number && (d.update handle index f).1.isOk then
        slots.modify index f
      else slots) := by
  rcases d.update_outcome handle index f with ⟨e, heq⟩ | ⟨value, hvalue, heq⟩
  · rw [heq, if_neg (by simp [Except.isOk, Except.toBool])]
    exact h
  · rw [heq]
    by_cases hfile : (d.mapping handle).file = number
    · subst hfile
      have hmodify : slots.modify index f = slots.set index value := by
        apply List.ext_getElem
        · rw [List.length_modify, List.length_set]
        · intro i hi _
          rw [List.length_modify] at hi
          rw [List.getElem_modify, List.getElem_set]
          by_cases hindex : index = i
          · subst hindex
            rw [if_pos rfl, if_pos rfl, hvalue, h.slot index hi]
          · rw [if_neg hindex, if_neg hindex]
      rw [if_pos (by simp [Except.isOk, Except.toBool]), hmodify]
      exact h.poke index value
    · rw [if_neg (by simp [hfile])]
      exact h.other hfile _

/-- Using arrays changes the slots of a file as it is meant to. -/
theorem change (h : d.Holds number slots) {c : Change} (huse : c.IsUse) :
    (d.change c).Holds number (d.recorded number slots c) := by
  cases c with
  | openFile path =>
    change (d.openFile path).2.Holds number slots
    rcases d.openFile_cases path with hsame | ⟨n, f, -, hmap⟩
    · rw [hsame]
      exact h
    · rw [hmap]
      exact ⟨h.lt, h.size, h.slot⟩
  | write handle index value =>
    rw [recorded, stores_write, List.set_eq_modify]
    exact h.update handle index fun _ ↦ value
  | increment handle index => exact h.update handle index (· + 1)
  | close handle => exact ⟨h.lt, h.size, h.slot⟩
  | create | createFresh | writeFile | writeAt | remove => exact huse.elim

theorem changes (h : d.Holds number slots) {uses : List Change} (huses : ∀ c ∈ uses, c.IsUse) :
    (d.changes uses).Holds number (d.recordedAll number slots uses) := by
  induction uses generalizing d slots with
  | nil => exact h
  | cons c rest ih =>
    rw [List.forall_mem_cons] at huses
    exact ih (h.change huses.1) huses.2

end Holds

/-- A block that was just made holds zeros. -/
theorem New.holds {handle : Handle} (h : d.New path length handle number d') :
    d'.Holds number (List.replicate length.toNat 0) := by
  obtain ⟨f, hf, hfile⟩ := h.zeroed
  refine ⟨h.lt, ?_, ?_⟩
  · rw [hfile, File.size_resize, fileSize_eq, List.length_replicate]
  · intro i hi
    rw [hfile, slotOf_resize_of_empty hf, List.getElem_replicate]

@[simp] theorem length_recorded (d : Directory) (number : Nat) (slots : List Generation)
    (c : Change) : (d.recorded number slots c).length = slots.length := by
  unfold recorded
  split
  · cases c <;> simp
  · rfl

@[simp] theorem length_recordedAll (d : Directory) (number : Nat) (slots : List Generation)
    (list : List Change) : (d.recordedAll number slots list).length = slots.length := by
  induction list generalizing d slots with
  | nil => rfl
  | cons c rest ih => rw [recordedAll, ih, length_recorded]

/-- Using arrays leaves the names. -/
theorem names_changes (d : Directory) {uses : List Change} (huses : ∀ c ∈ uses, c.IsUse) :
    (d.changes uses).names = d.names := by
  have update (d : Directory) (handle : Handle) (index : Nat) (f : Generation → Generation) :
      (d.update handle index f).2.names = d.names := by
    rcases d.update_cases handle index f with hsame | ⟨value, hset⟩
    · rw [hsame]
    · rw [hset]
      rfl
  induction uses generalizing d with
  | nil => rfl
  | cons c rest ih =>
    rw [List.forall_mem_cons] at huses
    refine (ih _ huses.2).trans ?_
    cases c with
    | openFile path =>
      change (d.openFile path).2.names = d.names
      rcases d.openFile_cases path with hsame | ⟨n, f, -, hmap⟩
      · rw [hsame]
      · rw [hmap]
        rfl
    | write handle index value => exact update d handle index fun _ ↦ value
    | increment handle index => exact update d handle index (· + 1)
    | close => rfl
    | create | createFresh | writeFile | writeAt | remove => exact huses.1.elim

/-! ## The format -/

/-- A path leads to a file of these bytes. It can be mapped to read just if they make up slots, of
which they are the bytes, and then a slot reads as the number that its four bytes stand for in two's
complement. -/
structure Reads (d : Directory) (path : String) (bytes : List UInt8) : Prop where
  opens : (d.openFile path).1.isOk ↔ bytes.length ≠ 0 ∧ bytes.length % 4 = 0
  encode : (d.openFile path).1.isOk → encodeSlots (decodeSlots bytes) = bytes
  reads : ∀ (handle : Handle) (d' : Directory), d.openFile path = (.ok handle, d') →
    GenerationBlock.length d' handle = bytes.length / 4 ∧
      ∀ index < bytes.length / 4, ∃ value : Generation,
        (GenerationBlock.read d' handle index).1 = .ok value ∧
          value.toInt = (littleEndian ((bytes.drop (4 * index)).take 4) : Int).bmod (2 ^ 32)

/-- The file of a block, which its path leads to, holds the bytes of these slots and no others. -/
structure Exact (d : Directory) (path : String) (number : Nat) (slots : List Generation) :
    Prop where
  content : d.content? path = some (encodeSlots slots)
  length : (encodeSlots slots).length = 4 * slots.length
  decode : decodeSlots (encodeSlots slots) = slots
  encode : ∀ bytes, d.content? path = some bytes → encodeSlots (decodeSlots bytes) = bytes
  /-- Every array of the file that is open reads these slots. -/
  reads : ∀ (handle : Handle) (index : Nat) (h : index < slots.length),
    (d.mapping handle).file = number → (d.mapping handle).closed = false →
      index < (d.mapping handle).length → (GenerationBlock.read d handle index).1 = .ok slots[index]

/-- A byte of a file that a change of a slot changes is one of the four bytes of the slot, in the
file that the change goes to, and the change is not refused. -/
def Confined (d : Directory) : Prop :=
  ∀ (c : Change) (handle : Handle) (index : Nat), c.target? = some (handle, index) →
    ∀ number offset : Nat,
      ((d.change c).file number).content[offset]? ≠ (d.file number).content[offset]? →
        d.stores number c ∧ 4 * index ≤ offset ∧ offset < 4 * index + 4

theorem file_of_find? {f : File} (h : d.find? path = some (number, f)) : d.file number = f := by
  obtain ⟨name, -, hname⟩ := Option.bind_eq_some_iff.mp h
  obtain ⟨n, -, heq⟩ := Option.bind_eq_some_iff.mp hname
  cases heq
  rfl

@[simp] theorem mapping_map (d : Directory) (m : Mapping) :
    (d.map m).2.mapping d.mappings.size = m := by
  simp [mapping, map, Array.getD_eq_getD_getElem?]

/-- Mapping a file to read is refused just if its bytes do not make up slots. -/
theorem openFile_eq (hpath : checkPath path = .ok ()) {f : File}
    (hfind : d.find? path = some (number, f)) :
    (f.size ≠ 0 ∧ f.size % 4 = 0 ∧
        d.openFile path = d.map ⟨number, path, f.size / 4, false, false⟩) ∨
      (¬ (f.size ≠ 0 ∧ f.size % 4 = 0) ∧ ∃ e, d.openFile path = (.error e, d)) := by
  unfold openFile
  rw [hpath, hfind]
  by_cases hwhole : f.size ≠ 0 ∧ f.size % 4 = 0
  · exact .inl ⟨hwhole.1, hwhole.2, by simp [slotSize, hwhole]⟩
  · have hlayout : (f.size = 0 || f.size % slotSize != 0) = true := by
      rw [slotSize, Bool.or_eq_true, decide_eq_true_eq, bne_iff_ne]
      omega
    exact .inr ⟨hwhole, _, if_pos hlayout⟩

/-- A handle that is open reads each of its slots. -/
theorem view_of_open {handle : Handle} {index : Nat} (hopen : (d.mapping handle).closed = false)
    (hlt : index < (d.mapping handle).length) :
    d.view handle index = .ok (slotOf (d.file (d.mapping handle).file) index) := by
  unfold view
  dsimp only
  rw [hopen, if_neg Bool.false_ne_true, if_neg (Nat.not_le.mpr hlt)]

/-- A file of any bytes is read as it should be. -/
theorem reads_of_content {bytes : List UInt8} (hpath : checkPath path = .ok ())
    (hbytes : d.content? path = some bytes) : d.Reads path bytes := by
  obtain ⟨⟨number, f⟩, hfind, rfl⟩ := Option.map_eq_some_iff.mp hbytes
  have hlength : f.content.length = f.size := f.length_content
  rcases openFile_eq hpath hfind with ⟨hne, hmod, hopened⟩ | ⟨hbroken, e, hrefused⟩
  · have hmapping := d.mapping_map ⟨number, path, f.size / 4, false, false⟩
    refine ⟨⟨fun _ ↦ ?_, fun _ ↦ ?_⟩, fun _ ↦ encodeSlots_decodeSlots _ ?_,
      fun handle d' hmade ↦ ?_⟩
    · rw [hlength]
      exact ⟨hne, hmod⟩
    · rw [hopened]
      rfl
    · rw [hlength]
      exact hmod
    · rw [hopened] at hmade
      obtain rfl : d.mappings.size = handle := Except.ok.inj (congrArg Prod.fst hmade)
      obtain rfl := congrArg Prod.snd hmade
      rw [hlength]
      refine ⟨congrArg Mapping.length hmapping, fun index hindex ↦ ?_⟩
      refine ⟨slotOf f index, ?_, toInt_slotOf (by omega)⟩
      refine (view_of_open ?_ ?_).trans ?_
      · rw [hmapping]
      · rw [hmapping]
        exact hindex
      · rw [hmapping]
        exact congrArg (fun f ↦ Except.ok (slotOf f index)) (file_of_find? hfind)
  · have hnot : ¬ (d.openFile path).1.isOk := by
      rw [hrefused]
      exact Bool.false_ne_true
    refine ⟨⟨fun hopens ↦ absurd hopens hnot, fun hwhole ↦ ?_⟩, fun hopens ↦ absurd hopens hnot,
      fun handle d' hmade ↦ ?_⟩
    · rw [hlength] at hwhole
      exact absurd hwhole hbroken
    · rw [hrefused] at hmade
      cases hmade

theorem Holds.exact (h : d.Holds number slots)
    (hfind : d.find? path = some (number, d.file number)) : d.Exact path number slots := by
  have hcontent : d.content? path = some (encodeSlots slots) := by
    rw [content?, hfind]
    exact congrArg some h.content
  refine ⟨hcontent, length_encodeSlots slots, decodeSlots_encodeSlots slots, ?_, ?_⟩
  · intro bytes hbytes
    obtain rfl := Option.some.inj (hcontent.symm.trans hbytes)
    rw [decodeSlots_encodeSlots]
  · intro handle index hindex hfile hopen hlt
    refine (view_of_open hopen hlt).trans ?_
    rw [hfile, h.slot index hindex]

/-- Storing the bytes of a slot leaves all other bytes of the file. -/
theorem getElem?_content_poke (f : File) (index : Nat) (value : Generation) {offset : Nat}
    (h : offset < 4 * index ∨ 4 * index + 4 ≤ offset) :
    (f.poke (index * slotSize) (encodeSlot value)).content[offset]? = f.content[offset]? := by
  have hbyte : (f.poke (index * slotSize) (encodeSlot value)).byte offset = f.byte offset := by
    apply File.byte_poke_of_outside
    change offset < index * 4 ∨ index * 4 + 4 ≤ offset
    omega
  rw [File.content, File.content, File.size_poke, List.getElem?_map, List.getElem?_map]
  by_cases hlt : offset < f.size
  · rw [List.getElem?_range hlt]
    exact congrArg some hbyte
  · rw [List.getElem?_eq_none (by simpa using hlt)]
    rfl

/-- Changes of slots are confined to them, in every directory. -/
theorem confined (d : Directory) : d.Confined := by
  have update (handle : Handle) (index : Nat) (f : Generation → Generation) (number offset : Nat)
      (hchanged : ((d.update handle index f).2.file number).content[offset]? ≠
        (d.file number).content[offset]?) :
      ((d.mapping handle).file == number && (d.update handle index f).1.isOk) ∧
        4 * index ≤ offset ∧ offset < 4 * index + 4 := by
    rcases d.update_outcome handle index f with ⟨e, heq⟩ | ⟨value, -, heq⟩
    · rw [heq] at hchanged
      exact absurd rfl hchanged
    · rw [heq] at hchanged ⊢
      dsimp only at hchanged
      rw [file_setFile] at hchanged
      split at hchanged
      · next hnumber =>
        obtain ⟨rfl, -⟩ := hnumber
        refine ⟨by simp [Except.isOk, Except.toBool], ?_⟩
        by_cases hout : offset < 4 * index ∨ 4 * index + 4 ≤ offset
        · exact absurd (getElem?_content_poke _ index value hout) hchanged
        · omega
      · exact absurd rfl hchanged
  intro c handle index htarget number offset hchanged
  cases c with
  | write h i value =>
    cases htarget
    rw [stores_write]
    exact update handle index (fun _ ↦ value) number offset hchanged
  | increment h i =>
    cases htarget
    exact update handle index (· + 1) number offset hchanged
  | openFile | close | create | createFresh | writeFile | writeAt | remove => cases htarget

/-- The format of block files is exact in both directions. Any bytes are the content of a file that
can be mapped to read just if there are some and they make up slots, and then there are a quarter as
many slots, each of which reads as the number of its four bytes. The file of a block that was made
holds, however the arrays of the directory have been used, the bytes of its slots and no others:
zeros at first, and then what the changes that were not refused have left. Every further change is
confined to its slot. -/
theorem Sound.block_file_exact (hd : d.Sound) :
    (∀ path bytes, checkPath path = .ok () → d.content? path = some bytes → d.Reads path bytes) ∧
    ∀ (host : Host) (path : String) (length : UInt64) (handle : Handle) (d' : Directory),
      d.create host path length = (.ok handle, d') → ∀ uses : List Change, (∀ c ∈ uses, c.IsUse) →
        let number := (d'.mapping handle).file
        let slots := d'.recordedAll number (List.replicate length.toNat 0) uses
        slots.length = length.toNat ∧ (d'.changes uses).Exact path number slots ∧
          (d'.changes uses).Confined := by
  refine ⟨fun path bytes ↦ reads_of_content, ?_⟩
  intro host path length handle d' hmade uses huses
  obtain ⟨number, hnew⟩ := hd.new hmade
  have hnumber : (d'.mapping handle).file = number := by rw [hnew.mapping]
  have hholds := hnew.holds.changes huses
  have hfind : (d'.changes uses).find? path =
      some (number, (d'.changes uses).file number) := by
    obtain ⟨name, hname, hfound⟩ := Option.bind_eq_some_iff.mp hnew.found
    obtain ⟨n, hn, heq⟩ := Option.bind_eq_some_iff.mp hfound
    cases heq
    apply find?_of_named hname
    rw [names_changes d' huses]
    exact hn
  dsimp only
  rw [hnumber]
  exact ⟨by simp, hholds.exact hfind, confined _⟩

/-- What is done with a block of two slots: the first is set to the largest number and wraps around,
the second is counted up, and a read-only array, a slot that is not there and a closed array are
refused. -/
def refusedWrites : List Change :=
  [.write 0 0 2147483647, .increment 0 0, .increment 0 1, .openFile "./block", .write 1 0 5,
    .increment 0 2, .close 0, .increment 0 1]

/-- Two slots have the bytes of the values that they read as after changes that went through and
others that were refused, and the file can be mapped again. -/
theorem block_file_exact_refusedWrites : ∃ d',
    ({} : Directory).create (.below 4096) "block" 2 = (.ok 0, d') ∧
    (d'.changes refusedWrites).content? "block" = some [0, 0, 0, 128, 1, 0, 0, 0] ∧
    (GenerationBlock.read (d'.changes refusedWrites) 1 0).1 = .ok (-2147483648) ∧
    ((d'.changes refusedWrites).openFile "block").1.isOk := by
  refine ⟨(({} : Directory).create (.below 4096) "block" 2).2, rfl, ?_⟩
  have hsound : ((({} : Directory).create (.below 4096) "block" 2).2.changes refusedWrites).Sound :=
    (Sound.empty.create (.below 4096) "block" 2).changes _
  obtain ⟨-, hexact, -⟩ := Sound.empty.block_file_exact.2 (.below 4096) "block" 2 0 _ rfl
    refusedWrites (by simp [refusedWrites, Change.IsUse])
  refine ⟨hexact.content, hexact.reads 1 0 (by decide) rfl rfl (by decide), ?_⟩
  exact (hsound.block_file_exact.1 "block" _ rfl hexact.content).opens.mpr (by decide)

end SettingsCache.Directory
