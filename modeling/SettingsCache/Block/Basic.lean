import SettingsCache.Error
import SettingsCache.Reading

/-!
# Generation blocks

A generation block is a fixed number of 32-bit slots. The settings service owns it and is the only
one to write it; clients reach it through handles, read their slot and close the handle when they
are done. Closing a handle leaves the block and the other handles as they were.

Blocks come in several kinds. Each is a state that holds the slots and every handle onto them, and
says how it answers through `GenerationBlock`.
-/

namespace SettingsCache

/-- The number of a handle, unique among the handles of its block. -/
abbrev Handle := Nat

/-- What an operation on a block answers, and the block afterwards. -/
abbrev Answered (β α : Type) := Except ArrayError α × β

/-- The operations of a generation block, the block being one of the states in `β`. -/
class GenerationBlock (β : Type) where
  /-- The number of slots seen through a handle. -/
  length : β → Handle → Nat
  /-- Read a slot. -/
  read : β → Handle → Nat → Answered β Generation
  /-- Store a value in a slot. -/
  write : β → Handle → Nat → Generation → Answered β Unit
  /-- Add one to a slot, wrapping around, and answer the new value. -/
  increment : β → Handle → Nat → Answered β Generation
  /-- Close a handle. -/
  close : β → Handle → Answered β Unit
  /-- Whether a handle has been closed. -/
  isClosed : β → Handle → Bool

/-- Whether a block has no slot. -/
def GenerationBlock.isEmpty {β : Type} [GenerationBlock β] (block : β) (handle : Handle) : Bool :=
  length block handle == 0

/-- The slots of a block. -/
abbrev Slots := Array Generation

namespace Slots

/-- A number of slots that all hold zero. -/
def zeroed (length : Nat) : Slots := Array.replicate length 0

/-- The value of a slot, or the complaint that there is no such slot. -/
def read (slots : Slots) (index : Nat) : Except ArrayError Generation :=
  match slots[index]? with
  | some value => .ok value
  | none => .error (.outOfBounds index slots.size)

/-- Store a value in a slot; without such a slot nothing changes. -/
def write (slots : Slots) (index : Nat) (value : Generation) : Slots :=
  slots.setIfInBounds index value

end Slots

end SettingsCache
