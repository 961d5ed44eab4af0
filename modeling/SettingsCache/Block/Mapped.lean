import SettingsCache.Block.Basic
import SettingsCache.Block.File
import SettingsCache.Block.Path

/-!
# Blocks in files

A block can live in a file that several processes map. The service creates the file and maps it to
read and write; clients map the same file to read. A slot is four bytes, the least significant
first, at four times its index. All mappings of a file see its bytes at once, and keep the file
when its name is removed.

Everything happens in one directory, which messages write `<dir>`. What the operating system says
when it refuses something is written `<os>`. Which sizes it refuses is up to the `Host`.
-/

namespace SettingsCache

/-- The number of bytes in a slot. -/
def slotSize : Nat := 4

/-- The bytes of a slot's value, the least significant first. -/
def encodeSlot (value : Generation) : List UInt8 :=
  let n := value.toUInt32.toNat
  [UInt8.ofNat n, UInt8.ofNat (n / 256), UInt8.ofNat (n / 65536), UInt8.ofNat (n / 16777216)]

/-- The value of a slot's bytes, the least significant first. -/
def decodeSlot (b0 b1 b2 b3 : UInt8) : Generation :=
  (UInt32.ofNat (b0.toNat + 256 * b1.toNat + 65536 * b2.toNat + 16777216 * b3.toNat)).toInt32

/-- One mapping of a file. -/
structure Mapping where
  /-- The number of the mapped file. -/
  file : Nat
  /-- The path by which the file was found. -/
  path : String
  /-- The number of slots. -/
  length : Nat
  /-- Whether the mapping was made by creating the file. -/
  writable : Bool
  /-- Whether the mapping has been given up. -/
  closed : Bool := false
  deriving DecidableEq

/-- Which sizes of files an operating system puts up with. -/
structure Host where
  /-- Whether a file can be made so many bytes long. -/
  sizes : Nat → Bool
  /-- Whether a file of so many bytes can be mapped to write. -/
  maps : Nat → Bool

/-- A host that makes files of less than so many bytes, and maps every file that it makes. -/
def Host.below (limit : Nat) : Host := ⟨fun size ↦ size < limit, fun _ ↦ true⟩

/-- How the making of a block file can come to nothing. -/
inductive Failure where
  /-- An error is returned. -/
  | error (e : ArrayError)
  /-- Nothing is returned: the call panics. -/
  | panic (message : String)
  deriving DecidableEq

/-- A directory of block files, and every mapping made of them. -/
structure Directory where
  /-- The number of the file of each name. -/
  names : Std.ExtTreeMap String Nat := ∅
  /-- Every file there ever was; a file without a name lives on in its mappings. -/
  files : Array File := #[]
  /-- Every mapping ever made; its number is its handle. -/
  mappings : Array Mapping := #[]
  /-- How many names have been made up. -/
  serial : Nat := 0

namespace Directory

/-- The complaint that the operating system refused. -/
def refused : ArrayError := .io "<os>"

/-- What is said of a size that is no unsigned 64-bit number. -/
def overflowed : String := "attempt to multiply with overflow"

/-- The complaint about a size that is no signed 64-bit number. -/
def oversized : ArrayError := .io "number too large to fit in target type"

/-- A path as messages write it. -/
def shownPath (path : String) : String := "<dir>/" ++ path

/-- The file of a number. -/
def file (d : Directory) (number : Nat) : File := d.files.getD number {}

/-- Replace the file of a number. -/
def setFile (d : Directory) (number : Nat) (f : File) : Directory :=
  { d with files := d.files.setIfInBounds number f }

/-- The number and the content of the file that a path leads to. -/
def find? (d : Directory) (path : String) : Option (Nat × File) := do
  let number ← d.names[← fileName? path]?
  return (number, d.file number)

/-- The number of the file of a name, which is made if there is none. -/
def ensure (d : Directory) (name : String) : Nat × Directory :=
  match d.names[name]? with
  | some number => (number, d)
  | none =>
    (d.files.size, { d with names := d.names.insert name d.files.size, files := d.files.push {} })

/-- Add a mapping; its handle is its number. -/
def map (d : Directory) (mapping : Mapping) : Answered Directory Handle :=
  (.ok d.mappings.size, { d with mappings := d.mappings.push mapping })

/-- Cut the file of a number off, make it as long as its slots, which are zeros then, and map it.
Where the computation of the size overflows, the call panics. The file stays cut off if it cannot
be made so long, and it stays so long if it cannot be mapped. -/
def createOn (d : Directory) (host : Host) (number : Nat) (path : String) (length : UInt64) :
    Except Failure Handle × Directory :=
  let d := d.setFile number ((d.file number).resize 0)
  let size := length.toNat * slotSize
  if UInt64.size ≤ size then (.error (.panic overflowed), d)
  else if Nat.pow 2 63 ≤ size then (.error (.error oversized), d)
  else if !host.sizes size then (.error (.error refused), d)
  else
    let d := d.setFile number ((d.file number).resize size)
    if !host.maps size then (.error (.error refused), d)
    else
      let (answer, d) :=
        d.map { file := number, path := path, length := length.toNat, writable := true }
      (answer.mapError .error, d)

/-- Create a block file, or start the one there is anew, and map its zeroed slots. -/
def create (d : Directory) (host : Host) (path : String) (length : UInt64) :
    Except Failure Handle × Directory :=
  if length = 0 then
    (.error (.error (.invalidLayout "generation array must have at least one slot")), d)
  else
    match checkPath path, fileName? path with
    | .error e, _ => (.error (.error e), d)
    | .ok _, none => (.error (.error refused), d)
    | .ok _, some name =>
      let (number, d) := d.ensure name
      d.createOn host number path length

/-- A name that no earlier call made up: `generations-`, 32 hexadecimal digits of which the 13th
is the version 7 and the 17th the variant 8, and `.bin`. -/
def freshName (serial : Nat) : String :=
  let digits := Nat.toDigits 16 serial
  "generations-" ++ String.ofList (List.replicate (12 - digits.length) '0' ++ digits) ++
    "70008000000000000000.bin"

/-- Create a block file under a name of the directory's own making. -/
def createFresh (d : Directory) (host : Host) (length : UInt64) :
    Except Failure Handle × Directory :=
  ({ d with serial := d.serial + 1 }).create host (freshName d.serial) length

/-- The form of a made-up name: every hexadecimal digit but the version is blotted out. -/
def nameShape (name : String) : String :=
  let head := "generations-".toList
  let digits := (name.toList.drop head.length).take 32
  let blotted := List.replicate 12 'x' ++ (digits.drop 12).take 1 ++ List.replicate 19 'x'
  String.ofList (head ++ blotted ++ name.toList.drop (head.length + 32))

/-- Map an existing block file to read. Its size decides the number of slots. -/
def openFile (d : Directory) (path : String) : Answered Directory Handle :=
  match checkPath path, d.find? path with
  | .error e, _ => (.error e, d)
  | .ok _, none => (.error refused, d)
  | .ok _, some (number, f) =>
    if f.size = 0 || f.size % slotSize != 0 then
      let reason := shownPath path ++ " is " ++ toString f.size ++
        " bytes, expected a non-zero multiple of " ++ toString slotSize
      (.error (.invalidLayout reason), d)
    else
      d.map { file := number, path := path, length := f.size / slotSize, writable := false }

/-- The mapping of a handle; an unknown handle counts as closed. -/
def mapping (d : Directory) (handle : Handle) : Mapping :=
  d.mappings.getD handle { file := 0, path := "", length := 0, writable := false, closed := true }

/-- The value of a slot of a file. -/
def slotOf (f : File) (index : Nat) : Generation :=
  let part (i : Nat) : UInt8 := f.byte (index * slotSize + i)
  decodeSlot (part 0) (part 1) (part 2) (part 3)

/-- What a mapping reads from a slot: a closed mapping is noticed before a bad index. -/
def view (d : Directory) (handle : Handle) (index : Nat) : Except ArrayError Generation :=
  let m := d.mapping handle
  if m.closed then .error .closed
  else if m.length ≤ index then .error (.outOfBounds index m.length)
  else .ok (slotOf (d.file m.file) index)

/-- Put a value computed from the old one into a slot. A mapping made to read refuses before
anything else is looked at. -/
def update (d : Directory) (handle : Handle) (index : Nat) (f : Generation → Generation) :
    Answered Directory Generation :=
  let m := d.mapping handle
  if !m.writable then (.error (.io (shownPath m.path ++ " is mapped read-only")), d)
  else
    match d.view handle index with
    | .error e => (.error e, d)
    | .ok old =>
      let bytes := encodeSlot (f old)
      (.ok (f old), d.setFile m.file ((d.file m.file).poke (index * slotSize) bytes))

/-- Give a mapping up. -/
def close (d : Directory) (handle : Handle) : Answered Directory Unit :=
  (.ok (), { d with mappings := d.mappings.modify handle fun m ↦ { m with closed := true } })

/-- Bring the bytes of a mapping to its file, where they already are. -/
def flush (d : Directory) (handle : Handle) : Except ArrayError Unit :=
  if (d.mapping handle).closed then .error .closed else .ok ()

instance : GenerationBlock Directory where
  length d handle := (d.mapping handle).length
  read d handle index := (d.view handle index, d)
  write d handle index value :=
    let (answer, d) := d.update handle index fun _ ↦ value
    (answer.map fun _ ↦ (), d)
  increment d handle index := d.update handle index (· + 1)
  close := close
  isClosed d handle := (d.mapping handle).closed

/-- The name of the file of a mapping, by the path that found it. -/
def fileName (d : Directory) (handle : Handle) : String :=
  (fileName? (d.mapping handle).path).getD ""

/-- The content of the file that a path leads to. -/
def content? (d : Directory) (path : String) : Option (List UInt8) :=
  (d.find? path).map fun found ↦ found.2.content

/-- Replace the file that a path leads to, or make it. -/
def writeFile? (d : Directory) (path : String) (bytes : List UInt8) : Option Directory :=
  (fileName? path).map fun name ↦
    let (number, d) := d.ensure name
    d.setFile number ((d.file number).replace bytes)

/-- Write into the file that a path leads to, if there is one. -/
def writeAt? (d : Directory) (path : String) (offset : Nat) (bytes : List UInt8) :
    Option Directory :=
  (d.find? path).map fun (number, f) ↦ d.setFile number (f.write offset bytes)

/-- Remove the name of a file, if it has one. -/
def remove? (d : Directory) (path : String) : Option Directory := do
  let name ← fileName? path
  if d.names.contains name then some { d with names := d.names.erase name } else none

end Directory

end SettingsCache
