import Mathlib.Algebra.Group.Nat.Defs
import Std.Data.ExtTreeMap.Lemmas
import SettingsCache.Proofs.Block.File

/-!
# What changes in a directory

Every name of a sound directory leads to a file of its own, and every mapping is of a file.
`Created` lists the ways in which making a block file can go, with the directory that each leaves.
All that can be done to a directory is a `Change`, and every change leaves it sound.
-/

namespace SettingsCache.Directory

variable {d d' : Directory}

/-! ## Files -/

/-- Every name leads to a file of its own, and every mapping is of a file. -/
structure Sound (d : Directory) : Prop where
  names : ∀ (name : String) (number : Nat), d.names[name]? = some number →
    number < d.files.size
  apart : ∀ (name name' : String) (number : Nat), d.names[name]? = some number →
    d.names[name']? = some number → name = name'
  mappings : ∀ m ∈ d.mappings, m.file < d.files.size

theorem file_setFile (d : Directory) (number : Nat) (f : File) (n : Nat) :
    (d.setFile number f).file n = if n = number ∧ n < d.files.size then f else d.file n := by
  simp only [file, setFile, Array.getD_eq_getD_getElem?, Array.getElem?_setIfInBounds]
  by_cases hn : number = n
  · subst hn
    by_cases hlt : number < d.files.size <;> simp [hlt]
  · simp [hn, Ne.symm hn]

@[simp] theorem size_files_setFile (d : Directory) (number : Nat) (f : File) :
    (d.setFile number f).files.size = d.files.size := Array.size_setIfInBounds

/-- Putting another file in the place of one leaves a directory sound. -/
theorem Sound.setFile (h : d.Sound) (number : Nat) (f : File) : (d.setFile number f).Sound where
  names name n hn := by
    rw [size_files_setFile]
    exact h.names name n hn
  apart := h.apart
  mappings m hm := by
    rw [size_files_setFile]
    exact h.mappings m hm

/-- A mapping of a file leaves a directory sound. -/
theorem Sound.map (h : d.Sound) {m : Mapping} (hm : m.file < d.files.size) :
    (d.map m).2.Sound where
  names := h.names
  apart := h.apart
  mappings m' hm' := by
    rcases Array.mem_push.mp hm' with hm' | rfl
    · exact h.mappings m' hm'
    · exact hm

/-- A name leads to a file that was there or is new and empty. -/
structure Ensured (d : Directory) (name : String) (number : Nat) (d' : Directory) : Prop where
  named : d'.names[name]? = some number
  names : ∀ other, other ≠ name → d'.names[other]? = d.names[other]?
  found : ∀ n, d.names[name]? = some n → n = number
  new : d.names[name]? = none → number = d.files.size
  lt : number < d'.files.size
  files : ∀ n, d'.file n = d.file n
  mappings : d'.mappings = d.mappings
  sound : d'.Sound

theorem Sound.ensured (h : d.Sound) (name : String) :
    d.Ensured name (d.ensure name).1 (d.ensure name).2 := by
  unfold ensure
  cases hname : d.names[name]? with
  | some number =>
    exact
      { named := hname
        names := fun _ _ ↦ rfl
        found := fun n hn ↦ Option.some.inj (hn.symm.trans hname)
        new := fun hn ↦ nomatch hname.symm.trans hn
        lt := h.names name number hname
        files := fun _ ↦ rfl
        mappings := rfl
        sound := h }
  | none =>
    have hother {other : String} (ne : other ≠ name) :
        (d.names.insert name d.files.size)[other]? = d.names[other]? := by
      rw [Std.ExtTreeMap.getElem?_insert, if_neg]
      simp [Ne.symm ne]
    have hself : (d.names.insert name d.files.size)[name]? = some d.files.size :=
      Std.ExtTreeMap.getElem?_insert_self
    -- The new number is past those of all names.
    have hnew {other : String} {n : Nat}
        (hn : (d.names.insert name d.files.size)[other]? = some n) :
        (other = name ∧ n = d.files.size) ∨ (d.names[other]? = some n ∧ n < d.files.size) := by
      by_cases ho : other = name
      · subst ho
        exact .inl ⟨rfl, (Option.some.inj (hself.symm.trans hn)).symm⟩
      · rw [hother ho] at hn
        exact .inr ⟨hn, h.names other n hn⟩
    have hsize : (d.files.push {}).size = d.files.size + 1 := Array.size_push ..
    refine
      { named := hself
        names := fun _ ↦ hother
        found := fun n hn ↦ nomatch hname.symm.trans hn
        new := fun _ ↦ rfl
        lt := by simp
        files := ?_
        mappings := rfl
        sound := ⟨?_, ?_, ?_⟩ }
    · intro n
      simp only [file, Array.getD_eq_getD_getElem?, Array.getElem?_push]
      by_cases hn : n = d.files.size
      · simp [hn]
      · simp [hn]
    · intro other n hn
      rw [hsize]
      rcases hnew hn with ⟨-, rfl⟩ | ⟨-, hlt⟩
      · exact Nat.lt_succ_self _
      · exact Nat.lt_succ_of_lt hlt
    · intro other other' n hn hn'
      rcases hnew hn with ⟨rfl, rfl⟩ | ⟨hold, hlt⟩ <;>
        rcases hnew hn' with ⟨rfl, heq⟩ | ⟨hold', hlt'⟩
      · rfl
      · exact absurd hlt' (Nat.lt_irrefl _)
      · exact absurd heq (Nat.ne_of_lt hlt)
      · exact h.apart other other' n hold hold'
    · intro m hm
      rw [hsize]
      exact Nat.lt_succ_of_lt (h.mappings m hm)

/-! ## Creation -/

/-- The size that a block file of a number of slots has to have. -/
def fileSize (length : UInt64) : Nat := length.toNat * slotSize

theorem fileSize_eq (length : UInt64) : fileSize length = 4 * length.toNat := Nat.mul_comm ..

/-- The size can be said in 64 bits just if there are less than `2 ^ 62` slots. -/
theorem size_le_fileSize_iff (length : UInt64) :
    UInt64.size ≤ fileSize length ↔ 2 ^ 62 ≤ length.toNat := by
  change 2 ^ 64 ≤ length.toNat * 4 ↔ _
  omega

/-- The file that a path leads to once it is there. -/
structure Reached (d : Directory) (path : String) (number : Nat) (d' : Directory) : Prop where
  checked : checkPath path = .ok ()
  ensured : ∃ name, fileName? path = some name ∧ d.Ensured name number d'

/-- Making a block file opens one: there is a slot to make, and the path can lead to a file. -/
structure Opens (path : String) (length : UInt64) : Prop where
  length_ne : length ≠ 0
  checked : checkPath path = .ok ()
  named : fileName? path ≠ none

theorem Reached.opens {path : String} {number : Nat} {length : UInt64}
    (h : d.Reached path number d') (hlength : length ≠ 0) : Opens path length := by
  obtain ⟨name, hname, -⟩ := h.ensured
  refine ⟨hlength, h.checked, ?_⟩
  simp [hname]

/-- A host makes a file long enough for a number of slots. -/
structure Grants (host : Host) (length : UInt64) : Prop where
  lt : fileSize length < 2 ^ 63
  sizes : host.sizes (fileSize length) = true

/-- The ways in which the making of a block file can go: what comes of it, and the directory
afterwards. -/
inductive Created (d : Directory) (host : Host) (path : String) (length : UInt64) :
    Except Failure Handle → Directory → Prop
  /-- Nothing is opened. -/
  | unopened {e : ArrayError} (h : ¬ Opens path length) :
      Created d host path length (.error (.error e)) d
  /-- The file is opened, which cuts it off, and then the computation of its size overflows. -/
  | panicked {number : Nat} {opened : Directory} (hlength : length ≠ 0)
      (hopened : d.Reached path number opened) (hsize : UInt64.size ≤ fileSize length) :
      Created d host path length (.error (.panic overflowed))
        (opened.setFile number ((opened.file number).resize 0))
  /-- The file is opened, which cuts it off, and then its size is refused. -/
  | cutOff {e : ArrayError} {number : Nat} {opened : Directory} (hlength : length ≠ 0)
      (hopened : d.Reached path number opened) (hsize : fileSize length < UInt64.size)
      (hrefused : ¬ Grants host length) :
      Created d host path length (.error (.error e))
        (opened.setFile number ((opened.file number).resize 0))
  /-- The file is made as long as it has to be, and then it cannot be mapped. -/
  | unmapped {number : Nat} {opened : Directory} (hlength : length ≠ 0)
      (hopened : d.Reached path number opened) (hgrants : Grants host length)
      (hmaps : host.maps (fileSize length) = false) :
      Created d host path length (.error (.error refused))
        (opened.setFile number (((opened.file number).resize 0).resize (fileSize length)))
  /-- The file is made. -/
  | made {number : Nat} {opened : Directory} (hlength : length ≠ 0)
      (hopened : d.Reached path number opened) (hgrants : Grants host length)
      (hmaps : host.maps (fileSize length) = true) :
      Created d host path length (.ok d.mappings.size)
        ((opened.setFile number (((opened.file number).resize 0).resize (fileSize length))).map
          { file := number, path := path, length := length.toNat, writable := true }).2

/-- A file that was opened is made as long as it has to be, or something comes in between. -/
theorem created_createOn {host : Host} {path : String} {length : UInt64} {number : Nat}
    {opened : Directory} (hlength : length ≠ 0) (hopened : d.Reached path number opened) :
    d.Created host path length (opened.createOn host number path length).1
      (opened.createOn host number path length).2 := by
  obtain ⟨name, hname, ensured⟩ := hopened.ensured
  have hcut : (opened.setFile number ((opened.file number).resize 0)).file number =
      (opened.file number).resize 0 := by
    rw [file_setFile, if_pos ⟨rfl, ensured.lt⟩]
  have htwice (f g : File) : (opened.setFile number f).setFile number g =
      opened.setFile number g := by
    simp only [setFile, Array.setIfInBounds_setIfInBounds]
  have hsize : length.toNat * slotSize = fileSize length := rfl
  unfold createOn
  dsimp only
  rw [hsize]
  by_cases hover : UInt64.size ≤ fileSize length
  · rw [if_pos hover]
    exact .panicked hlength hopened hover
  rw [if_neg hover]
  have hlt := Nat.lt_of_not_le hover
  by_cases hoff : Nat.pow 2 63 ≤ fileSize length
  · rw [if_pos hoff]
    exact .cutOff hlength hopened hlt fun hgrants ↦ absurd hoff (Nat.not_le.mpr hgrants.lt)
  rw [if_neg hoff]
  cases hsizes : host.sizes (fileSize length) with
  | false =>
    exact .cutOff hlength hopened hlt fun hgrants ↦
      Bool.false_ne_true (hsizes.symm.trans hgrants.sizes)
  | true =>
    have hgrants : Grants host length := ⟨Nat.lt_of_not_le hoff, hsizes⟩
    rw [hcut, htwice]
    cases hmaps : host.maps (fileSize length) with
    | false => exact .unmapped hlength hopened hgrants hmaps
    | true =>
      have hmade := Created.made hlength hopened hgrants hmaps
      rw [← ensured.mappings] at hmade
      exact hmade

/-- Every creation is of this kind. -/
theorem Sound.created (h : d.Sound) {host : Host} {path : String} {length : UInt64}
    {answer : Except Failure Handle} (hmade : d.create host path length = (answer, d')) :
    d.Created host path length answer d' := by
  unfold create at hmade
  by_cases hlength : length = 0
  · rw [if_pos hlength] at hmade
    cases hmade
    exact .unopened fun h ↦ h.length_ne hlength
  · rw [if_neg hlength] at hmade
    cases hpath : checkPath path with
    | error e =>
      simp only [hpath] at hmade
      cases hmade
      exact .unopened fun h ↦ nomatch hpath.symm.trans h.checked
    | ok =>
      cases hname : fileName? path with
      | none =>
        simp only [hpath, hname] at hmade
        cases hmade
        exact .unopened fun h ↦ h.named hname
      | some name =>
        simp only [hpath, hname] at hmade
        have hreached : d.Reached path _ (d.ensure name).2 := ⟨hpath, name, hname, h.ensured name⟩
        have hcreated : d.Created host path length _ _ := created_createOn hlength hreached
        rw [hmade] at hcreated
        exact hcreated

/-! ## Other changes -/

/-- Mapping a file to read adds a mapping of it, or leaves the directory. -/
theorem openFile_cases (d : Directory) (path : String) :
    (d.openFile path).2 = d ∨ ∃ number f, d.find? path = some (number, f) ∧
      (d.openFile path).2 = (d.map
        { file := number, path := path, length := f.size / slotSize, writable := false }).2 := by
  unfold openFile
  cases checkPath path with
  | error e => exact .inl rfl
  | ok =>
    cases hfind : d.find? path with
    | none => exact .inl rfl
    | some found =>
      obtain ⟨number, f⟩ := found
      dsimp only
      split
      · exact .inl rfl
      · exact .inr ⟨number, f, rfl, rfl⟩

/-- Changing a slot is refused, and then nothing happens, or its bytes are stored. -/
theorem update_outcome (d : Directory) (handle : Handle) (index : Nat)
    (f : Generation → Generation) :
    (∃ e, d.update handle index f = (.error e, d)) ∨
      ∃ value, value = f (slotOf (d.file (d.mapping handle).file) index) ∧
        d.update handle index f = (.ok value, d.setFile (d.mapping handle).file
          ((d.file (d.mapping handle).file).poke (index * slotSize) (encodeSlot value))) := by
  unfold update
  dsimp only
  split
  · exact .inl ⟨_, rfl⟩
  · cases hview : d.view handle index with
    | error e => exact .inl ⟨e, rfl⟩
    | ok old =>
      have hold : old = slotOf (d.file (d.mapping handle).file) index := by
        unfold view at hview
        dsimp only at hview
        split at hview
        · cases hview
        · split at hview
          · cases hview
          · exact (Except.ok.inj hview).symm
      exact .inr ⟨f old, by rw [hold], rfl⟩

/-- Changing a slot stores its bytes in the mapped file, or leaves the directory. -/
theorem update_cases (d : Directory) (handle : Handle) (index : Nat)
    (f : Generation → Generation) :
    (d.update handle index f).2 = d ∨ ∃ value, (d.update handle index f).2 =
      d.setFile (d.mapping handle).file
        ((d.file (d.mapping handle).file).poke (index * slotSize) (encodeSlot value)) := by
  rcases d.update_outcome handle index f with ⟨e, heq⟩ | ⟨value, -, heq⟩
  · exact .inl (congrArg Prod.snd heq)
  · exact .inr ⟨value, congrArg Prod.snd heq⟩

/-- A value is stored just if the slot can be changed. -/
theorem isOk_write (d : Directory) (handle : Handle) (index : Nat) (value : Generation) :
    (GenerationBlock.write d handle index value).1.isOk =
      (d.update handle index fun _ ↦ value).1.isOk := by
  change ((d.update handle index fun _ ↦ value).1.map _).isOk = _
  cases (d.update handle index fun _ ↦ value).1 <;> rfl

/-- Giving a mapping up leaves all of the mappings but that it is given up. -/
theorem mapping_close (d : Directory) (handle other : Handle) :
    ∃ closed, (d.close handle).2.mapping other = { d.mapping other with closed := closed } := by
  simp only [close, mapping, Array.getD_eq_getD_getElem?, Array.getElem?_modify]
  by_cases h : handle = other
  · refine ⟨true, ?_⟩
    rw [if_pos h]
    cases d.mappings[other]? <;> rfl
  · exact ⟨_, by rw [if_neg h]⟩

/-- What can be done to a directory, by way of its arrays or behind their back. -/
inductive Change where
  | create (host : Host) (path : String) (length : UInt64)
  | createFresh (host : Host) (length : UInt64)
  | openFile (path : String)
  | write (handle : Handle) (index : Nat) (value : Generation)
  | increment (handle : Handle) (index : Nat)
  | close (handle : Handle)
  | writeFile (path : String) (bytes : List UInt8)
  | writeAt (path : String) (offset : Nat) (bytes : List UInt8)
  | remove (path : String)

/-- A directory after a change. -/
def change (d : Directory) : Change → Directory
  | .create host path length => (d.create host path length).2
  | .createFresh host length => (d.createFresh host length).2
  | .openFile path => (d.openFile path).2
  | .write handle index value => (GenerationBlock.write d handle index value).2
  | .increment handle index => (GenerationBlock.increment d handle index).2
  | .close handle => (d.close handle).2
  | .writeFile path bytes => (d.writeFile? path bytes).getD d
  | .writeAt path offset bytes => (d.writeAt? path offset bytes).getD d
  | .remove path => (d.remove? path).getD d

/-- A directory after one change after another. -/
def changes (d : Directory) (list : List Change) : Directory := list.foldl change d

/-! ### Soundness -/

namespace Sound

theorem empty : ({} : Directory).Sound where
  names name number h := by simp at h
  apart name name' number h := by simp at h
  mappings m hm := absurd hm (Array.not_mem_empty m)

theorem create (h : d.Sound) (host : Host) (path : String) (length : UInt64) :
    (d.create host path length).2.Sound := by
  obtain ⟨answer, d', hmade⟩ : ∃ answer d', d.create host path length = (answer, d') :=
    ⟨_, _, rfl⟩
  rw [hmade]
  cases h.created hmade with
  | unopened => exact h
  | panicked _ hopened | cutOff _ hopened | unmapped _ hopened =>
    obtain ⟨name, -, ensured⟩ := hopened.ensured
    exact ensured.sound.setFile ..
  | made _ hopened =>
    obtain ⟨name, -, ensured⟩ := hopened.ensured
    refine (ensured.sound.setFile _ _).map ?_
    rw [size_files_setFile]
    exact ensured.lt

theorem find? (h : d.Sound) {path : String} {number : Nat} {f : File}
    (hfind : d.find? path = some (number, f)) : number < d.files.size := by
  obtain ⟨name, -, hname⟩ := Option.bind_eq_some_iff.mp hfind
  obtain ⟨found, hfound, heq⟩ := Option.bind_eq_some_iff.mp hname
  cases heq
  exact h.names name number hfound

theorem openFile (h : d.Sound) (path : String) : (d.openFile path).2.Sound := by
  rcases d.openFile_cases path with hsame | ⟨number, f, hfind, hmap⟩
  · rw [hsame]
    exact h
  · rw [hmap]
    exact h.map (h.find? hfind)

theorem update (h : d.Sound) (handle : Handle) (index : Nat) (f : Generation → Generation) :
    (d.update handle index f).2.Sound := by
  rcases d.update_cases handle index f with hsame | ⟨value, hset⟩
  · rw [hsame]
    exact h
  · rw [hset]
    exact h.setFile ..

theorem close (h : d.Sound) (handle : Handle) : (d.close handle).2.Sound where
  names := h.names
  apart := h.apart
  mappings m hm := by
    obtain ⟨n, hn⟩ := Array.mem_iff_getElem?.mp hm
    change (d.mappings.modify handle _)[n]? = some m at hn
    rw [Array.getElem?_modify] at hn
    by_cases hnh : handle = n
    · rw [if_pos hnh] at hn
      obtain ⟨m', hm', rfl⟩ := Option.map_eq_some_iff.mp hn
      exact h.mappings m' (Array.mem_of_getElem? hm')
    · rw [if_neg hnh] at hn
      exact h.mappings m (Array.mem_of_getElem? hn)

theorem writeFile (h : d.Sound) (path : String) (bytes : List UInt8) :
    ((d.writeFile? path bytes).getD d).Sound := by
  unfold writeFile?
  cases fileName? path with
  | none => exact h
  | some name => exact (h.ensured name).sound.setFile ..

theorem writeAt (h : d.Sound) (path : String) (offset : Nat) (bytes : List UInt8) :
    ((d.writeAt? path offset bytes).getD d).Sound := by
  unfold writeAt?
  cases d.find? path with
  | none => exact h
  | some found => exact h.setFile ..

theorem erase (h : d.Sound) (name : String) :
    Sound { d with names := d.names.erase name } := by
  have hold {other : String} {n : Nat} (hn : (d.names.erase name)[other]? = some n) :
      d.names[other]? = some n := by
    rw [Std.ExtTreeMap.getElem?_erase] at hn
    split at hn
    · cases hn
    · exact hn
  exact ⟨fun other n hn ↦ h.names other n (hold hn),
    fun other other' n hn hn' ↦ h.apart other other' n (hold hn) (hold hn'), h.mappings⟩

theorem remove (h : d.Sound) (path : String) : ((d.remove? path).getD d).Sound := by
  unfold remove?
  cases fileName? path with
  | none => exact h
  | some name =>
    dsimp only [Option.bind_eq_bind, Option.bind_some]
    split
    · exact h.erase name
    · exact h

/-- How many names have been made up does not bear on soundness. -/
theorem setSerial (h : d.Sound) (serial : Nat) : Sound { d with serial := serial } :=
  ⟨h.names, h.apart, h.mappings⟩

/-- Every change leaves a directory sound. -/
theorem change (h : d.Sound) (c : Change) : (d.change c).Sound := by
  cases c with
  | create host path length => exact h.create host path length
  | createFresh host length => exact (h.setSerial _).create host _ length
  | openFile path => exact h.openFile path
  | write handle index value => exact h.update handle index fun _ ↦ value
  | increment handle index => exact h.update handle index (· + 1)
  | close handle => exact h.close handle
  | writeFile path bytes => exact h.writeFile path bytes
  | writeAt path offset bytes => exact h.writeAt path offset bytes
  | remove path => exact h.remove path

/-- Whatever is done to a sound directory, it is sound. -/
theorem changes (h : d.Sound) (list : List Change) : (d.changes list).Sound := by
  induction list generalizing d with
  | nil => exact h
  | cons c rest ih => exact ih (h.change c)

end Sound

/-! ### Uses -/

/-- A change that uses an array: a file is mapped to read, a slot is changed, or a mapping is given
up. -/
def Change.IsUse : Change → Prop
  | .openFile _ | .write _ _ _ | .increment _ _ | .close _ => True
  | .create _ _ _ | .createFresh _ _ | .writeFile _ _ | .writeAt _ _ _ | .remove _ => False

/-- What using arrays leaves: the size of each file, and all of a mapping but that it may be given
up. -/
structure Kept (d d' : Directory) : Prop where
  sizes : ∀ n, (d'.file n).size = (d.file n).size
  grows : d.mappings.size ≤ d'.mappings.size
  mappings : ∀ handle < d.mappings.size, ∃ closed,
    d'.mapping handle = { d.mapping handle with closed := closed }

namespace Kept

theorem refl (d : Directory) : d.Kept d := ⟨fun _ ↦ rfl, Nat.le_refl _, fun _ _ ↦ ⟨_, rfl⟩⟩

theorem trans {d'' : Directory} (h : d.Kept d') (h' : d'.Kept d'') : d.Kept d'' where
  sizes n := (h'.sizes n).trans (h.sizes n)
  grows := Nat.le_trans h.grows h'.grows
  mappings handle hlt := by
    obtain ⟨_, hfirst⟩ := h.mappings handle hlt
    obtain ⟨closed, hsecond⟩ := h'.mappings handle (Nat.lt_of_lt_of_le hlt h.grows)
    exact ⟨closed, by rw [hsecond, hfirst]⟩

theorem map (d : Directory) (m : Mapping) : d.Kept (d.map m).2 where
  sizes _ := rfl
  grows := by simp [Directory.map]
  mappings handle hlt := by
    refine ⟨(d.mapping handle).closed, ?_⟩
    simp [Directory.map, mapping, Array.getD_eq_getD_getElem?, Array.getElem?_push,
      Nat.ne_of_lt hlt]

theorem poke (d : Directory) (number offset : Nat) (bytes : List UInt8) :
    d.Kept (d.setFile number ((d.file number).poke offset bytes)) where
  sizes n := by
    rw [file_setFile]
    split
    · next h => rw [File.size_poke, h.1]
    · rfl
  grows := Nat.le_refl _
  mappings _ _ := ⟨_, rfl⟩

theorem close (d : Directory) (handle : Handle) : d.Kept (d.close handle).2 where
  sizes _ := rfl
  grows := by simp [Directory.close]
  mappings other _ := d.mapping_close handle other

/-- Using an array leaves the sizes and the mappings. -/
theorem change (d : Directory) {c : Change} (h : c.IsUse) : d.Kept (d.change c) := by
  have update (handle : Handle) (index : Nat) (f : Generation → Generation) :
      d.Kept (d.update handle index f).2 := by
    rcases d.update_cases handle index f with hsame | ⟨value, hset⟩
    · rw [hsame]
      exact refl d
    · rw [hset]
      exact poke ..
  cases c with
  | openFile path =>
    change d.Kept (d.openFile path).2
    rcases d.openFile_cases path with hsame | ⟨number, f, -, hmap⟩
    · rw [hsame]
      exact refl d
    · rw [hmap]
      exact map d _
  | write handle index value => exact update handle index fun _ ↦ value
  | increment handle index => exact update handle index (· + 1)
  | close handle => exact close d handle
  | create | createFresh | writeFile | writeAt | remove => exact h.elim

/-- However the arrays are used, the sizes and the mappings are left. -/
theorem changes (d : Directory) {list : List Change} (h : ∀ c ∈ list, c.IsUse) :
    d.Kept (d.changes list) := by
  induction list generalizing d with
  | nil => exact refl d
  | cons c rest ih =>
    rw [List.forall_mem_cons] at h
    exact (change d h.1).trans (ih _ h.2)

end Kept

end SettingsCache.Directory
