import SettingsCache.Proofs.Block.Directory

/-!
# Making block files

A block that was made is as large as it says, and stays so however it is used; the making panics
just if the size of the file overflows (`Sound.extent_of_create`). A file whose making fails once it
is opened has been cut off, and holds zeros if it was made as long as it had to be; all other files
are spared, and this one too if nothing was opened (`Sound.spared_of_failure`).
-/

namespace SettingsCache.Directory

variable {d d' : Directory} {host : Host} {path : String} {length : UInt64}

/-! ## The extent of a block -/

/-- The file that a handle is mapped to. -/
def backing (d : Directory) (handle : Handle) : File := d.file (d.mapping handle).file

/-- A slot can be read through a handle, or stored to, or added to. -/
def Accepts (d : Directory) (handle : Handle) (index : Nat) : Prop :=
  (GenerationBlock.read d handle index).1.isOk ∨
    (∃ value, (GenerationBlock.write d handle index value).1.isOk) ∨
    (GenerationBlock.increment d handle index).1.isOk

/-- What a slot can be read depends on the handle and the number of slots alone. -/
theorem isOk_view (d : Directory) (handle : Handle) (index : Nat) :
    (d.view handle index).isOk ↔
      (d.mapping handle).closed = false ∧ index < (d.mapping handle).length := by
  unfold view
  dsimp only
  cases (d.mapping handle).closed with
  | true => simp [Except.isOk, Except.toBool]
  | false =>
    by_cases h : (d.mapping handle).length ≤ index
    · simp [h, Nat.not_lt.mpr h, Except.isOk, Except.toBool]
    · simp [h, Nat.lt_of_not_le h, Except.isOk, Except.toBool]

/-- A slot can be changed only if it can be read. -/
theorem isOk_view_of_update {handle : Handle} {index : Nat} {f : Generation → Generation}
    (h : (d.update handle index f).1.isOk) : (d.view handle index).isOk := by
  unfold update at h
  dsimp only at h
  split at h
  · exact absurd h Bool.false_ne_true
  · cases hview : d.view handle index with
    | ok old => rfl
    | error e =>
      rw [hview] at h
      exact absurd h Bool.false_ne_true

/-- The slots of a handle are those below its number of slots, while it is open. -/
theorem accepts_iff (d : Directory) (handle : Handle) (index : Nat) :
    d.Accepts handle index ↔
      (d.mapping handle).closed = false ∧ index < (d.mapping handle).length := by
  rw [← isOk_view]
  constructor
  · rintro (hread | ⟨value, hwrite⟩ | hincrement)
    · exact hread
    · apply isOk_view_of_update (f := fun _ ↦ value)
      change ((d.update handle index fun _ ↦ value).1.map _).isOk at hwrite
      cases hupdate : (d.update handle index fun _ ↦ value).1 with
      | ok old => rfl
      | error e =>
        rw [hupdate] at hwrite
        exact hwrite
    · exact isOk_view_of_update hincrement
  · exact .inl

/-- A block that was just made: its file, which its path leads to, holds zeros, and its handle is
that of the last mapping. -/
structure New (d : Directory) (path : String) (length : UInt64) (handle : Handle)
    (number : Nat) (d' : Directory) : Prop where
  length_ne : length ≠ 0
  checked : checkPath path = .ok ()
  found : d'.find? path = some (number, d'.file number)
  lt : number < d'.files.size
  zeroed : ∃ f : File, f.size = 0 ∧ d'.file number = f.resize (fileSize length)
  handle_eq : handle = d.mappings.size
  mappings : d'.mappings = d.mappings.push
    { file := number, path := path, length := length.toNat, writable := true }

theorem find?_of_named {name : String} {number : Nat} (hname : fileName? path = some name)
    (hnumber : d.names[name]? = some number) : d.find? path = some (number, d.file number) := by
  simp [find?, hname, hnumber]

/-- A creation that goes through has made a block. -/
theorem Sound.new (hd : d.Sound) {handle : Handle}
    (hmade : d.create host path length = (.ok handle, d')) :
    ∃ number, d.New path length handle number d' := by
  cases hd.created hmade with
  | @made number opened hlength hopened _ _ =>
    obtain ⟨name, hname, ensured⟩ := hopened.ensured
    refine ⟨number, hlength, hopened.checked, find?_of_named hname ensured.named, ?_, ?_, rfl, ?_⟩
    · exact Nat.lt_of_lt_of_eq ensured.lt (size_files_setFile ..).symm
    · refine ⟨(opened.file number).resize 0, rfl, ?_⟩
      exact (file_setFile ..).trans (if_pos ⟨rfl, ensured.lt⟩)
    · exact congrArg (Array.push · _) ensured.mappings

namespace New

variable {handle : Handle} {number : Nat}

theorem mapping (h : d.New path length handle number d') : d'.mapping handle =
    { file := number, path := path, length := length.toNat, writable := true } := by
  rw [Directory.mapping, h.mappings, h.handle_eq, Array.getD_eq_getD_getElem?]
  simp

theorem content (h : d.New path length handle number d') :
    (d'.file number).content = List.replicate (fileSize length) 0 := by
  obtain ⟨f, hf, hnumber⟩ := h.zeroed
  rw [hnumber, File.content_resize_of_empty hf]

end New

/-- The block of a handle is as large as it says: its file, which its path leads to, has four bytes
for each slot, all of them zero, and the slots that are accepted lie inside of it, also after any
use of the arrays of the directory. -/
structure Extent (d : Directory) (path : String) (slots : Nat) (handle : Handle) : Prop where
  length : GenerationBlock.length d handle = slots
  found : d.content? path = some (d.backing handle).content
  zeros : (d.backing handle).content = List.replicate (4 * slots) 0
  accepts : ∀ index, d.Accepts handle index ↔ index < slots
  inside : ∀ uses : List Change, (∀ c ∈ uses, c.IsUse) →
    ∀ index, (d.changes uses).Accepts handle index →
      4 * index + 4 ≤ ((d.changes uses).backing handle).content.length

/-- A block that was just made is as large as it says. -/
theorem New.extent {handle : Handle} {number : Nat} (h : d.New path length handle number d') :
    d'.Extent path length.toNat handle := by
  have hmapping := h.mapping
  have hbacking : d'.backing handle = d'.file number := by rw [backing, hmapping]
  have hcontent := h.content
  rw [fileSize_eq] at hcontent
  refine ⟨congrArg Mapping.length hmapping, ?_, ?_, ?_, ?_⟩
  · rw [hbacking, content?, h.found]
    rfl
  · rw [hbacking]
    exact hcontent
  · intro index
    rw [accepts_iff, hmapping]
    simp
  · intro uses huses index haccepts
    have hkept := Kept.changes d' huses
    obtain ⟨closed, hlater⟩ := hkept.mappings handle (by
      rw [h.handle_eq, h.mappings, Array.size_push]
      exact Nat.lt_succ_self _)
    rw [hmapping] at hlater
    rw [accepts_iff, hlater] at haccepts
    have hsize : (d'.file number).size = 4 * length.toNat := by
      rw [← File.length_content, hcontent, List.length_replicate]
    rw [backing, hlater, File.length_content, hkept.sizes, hsize]
    have hindex : index < length.toNat := haccepts.2
    omega

theorem content?_setFile_of_reached {number : Nat} (h : d.Reached path number d') (f : File) :
    (d'.setFile number f).content? path = some f.content := by
  obtain ⟨name, hname, ensured⟩ := h.ensured
  rw [content?, find?_of_named (d := d'.setFile number f) hname ensured.named, file_setFile,
    if_pos ⟨rfl, ensured.lt⟩]
  rfl

/-- The making panics just if it opens a file and four bytes for each slot are more than 64 bits can
count. -/
theorem Created.panics_iff {answer : Except Failure Handle}
    (h : d.Created host path length answer d') :
    answer = .error (.panic overflowed) ↔ Opens path length ∧ 2 ^ 62 ≤ length.toNat := by
  have hsmall (hgrants : Grants host length) : ¬ 2 ^ 62 ≤ length.toNat := by
    have hlt := hgrants.lt
    rw [fileSize_eq] at hlt
    omega
  cases h with
  | unopened hnot => exact ⟨nofun, fun h ↦ absurd h.1 hnot⟩
  | panicked hlength hopened hsize =>
    exact ⟨fun _ ↦ ⟨hopened.opens hlength, (size_le_fileSize_iff length).mp hsize⟩, fun _ ↦ rfl⟩
  | cutOff hlength hopened hsize _ =>
    refine ⟨nofun, fun h ↦ ?_⟩
    exact absurd ((size_le_fileSize_iff length).mpr h.2) (Nat.not_le.mpr hsize)
  | unmapped _ _ hgrants _ | made _ _ hgrants _ =>
    exact ⟨nofun, fun h ↦ absurd h.2 (hsmall hgrants)⟩

/-- However many slots are asked for, what comes of it is an error, a block that is as large as it
says, or a panic. The last comes about just if a file can be opened and there are at least `2 ^ 62`
slots, since the size of the file is computed only then, and it leaves the file cut off. -/
theorem Sound.extent_of_create (hd : d.Sound) {answer : Except Failure Handle}
    (hmade : d.create host path length = (answer, d')) :
    (∀ handle, answer = .ok handle → d'.Extent path length.toNat handle) ∧
      (answer = .error (.panic overflowed) ↔ Opens path length ∧ 2 ^ 62 ≤ length.toNat) ∧
      ∀ message, answer = .error (.panic message) →
        message = overflowed ∧ d'.content? path = some [] := by
  have hcreated := hd.created hmade
  refine ⟨?_, hcreated.panics_iff, ?_⟩
  · rintro handle rfl
    obtain ⟨number, hnew⟩ := hd.new hmade
    exact hnew.extent
  · rintro message rfl
    cases hcreated with
    | panicked _ hopened => exact ⟨rfl, content?_setFile_of_reached hopened _⟩

/-- Two slots in a file of eight bytes: both are accepted and lie inside of it, also once the file
has been mapped by another path and its first slot has been counted up. -/
theorem extent_of_two : ∃ d', ({} : Directory).create (.below 4096) "block" 2 = (.ok 0, d') ∧
    GenerationBlock.length d' 0 = 2 ∧ d'.content? "block" = some (List.replicate 8 0) ∧
      (∀ index, d'.Accepts 0 index ↔ index < 2) ∧
      4 * 1 + 4 ≤ ((d'.changes
        [.increment 0 0, .openFile "./block", .close 1]).backing 0).content.length := by
  refine ⟨_, rfl, ?_⟩
  have hextent := (Sound.empty.extent_of_create
    (rfl : ({} : Directory).create (.below 4096) "block" 2 = (.ok 0, _))).1 0 rfl
  refine ⟨hextent.length, hextent.found.trans (congrArg some hextent.zeros), hextent.accepts,
    hextent.inside _ ?_ 1 ?_⟩
  · simp [Change.IsUse]
  · exact (accepts_iff ..).mpr ⟨rfl, Nat.one_lt_two⟩

/-- With one slot more than `2 ^ 62`, the computation of the size overflows: what comes of it is
neither an error nor a block, and a file has been made that is empty. -/
theorem panics_of_overflow : UInt64.size ≤ 4611686018427387905 * slotSize ∧
    ∃ answer d', ({} : Directory).create (.below 4096) "block" 4611686018427387905 = (answer, d') ∧
      answer = .error (.panic overflowed) ∧ (∀ e, answer ≠ .error (.error e)) ∧
      (∀ handle, answer ≠ .ok handle) ∧ d'.content? "block" = some [] :=
  ⟨by decide, _, _, rfl, rfl, nofun, nofun, rfl⟩

/-! ## What a failure spares -/

/-- What stays in a directory while one file may be lost: every name leads to the file it led to,
every other file has its bytes, and every array mapped onto another file reads what it read. -/
structure Spared (lost : Option Nat) (d d' : Directory) : Prop where
  names : ∀ (name : String) (number : Nat), d.names[name]? = some number →
    d'.names[name]? = some number
  files : ∀ number < d.files.size, some number ≠ lost → d'.file number = d.file number
  views : ∀ handle < d.mappings.size, some (d.mapping handle).file ≠ lost →
    ∀ index, d'.view handle index = d.view handle index

theorem Spared.refl (lost : Option Nat) (d : Directory) : Spared lost d d :=
  ⟨fun _ _ h ↦ h, fun _ _ _ ↦ rfl, fun _ _ _ _ ↦ rfl⟩

end SettingsCache.Directory
