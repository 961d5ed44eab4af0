import Std.Data.ExtTreeMap

/-!
# The bytes of a file

A file is a size and the bytes at its offsets. An offset at which nothing was ever stored holds
zero, so that a file can be made longer than anything written to it. A mapping of a file reaches
to the end of a page, which may lie past the end of the file: bytes stored there are seen by every
mapping and are not part of the content.
-/

namespace SettingsCache

/-- A file: how many bytes it has, and the bytes that have been stored. -/
structure File where
  size : Nat := 0
  stored : Std.ExtTreeMap Nat UInt8 := ∅

namespace File

/-- The byte at an offset. -/
def byte (f : File) (offset : Nat) : UInt8 := f.stored.getD offset 0

/-- The bytes of the file. -/
def content (f : File) : List UInt8 := (List.range f.size).map f.byte

/-- Store bytes from an offset on, without making the file longer. -/
def poke (f : File) (offset : Nat) : List UInt8 → File
  | [] => f
  | b :: rest => ({ f with stored := f.stored.insert offset b }).poke (offset + 1) rest

/-- Cut the file off, or make it longer by zeros. -/
def resize (f : File) (size : Nat) : File :=
  { size := size, stored := f.stored.filter fun offset _ ↦ offset < min size f.size }

/-- Write bytes from an offset on, making the file long enough to hold them. Writing no byte leaves
the file as it is, whatever the offset. -/
def write (f : File) (offset : Nat) (bytes : List UInt8) : File :=
  if bytes.isEmpty then f
  else
    let f := f.poke offset bytes
    { f with size := max f.size (offset + bytes.length) }

/-- Replace the whole content of the file. -/
def replace (f : File) (bytes : List UInt8) : File := (f.resize 0).write 0 bytes

end File

end SettingsCache
