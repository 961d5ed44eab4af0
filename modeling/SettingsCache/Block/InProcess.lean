import SettingsCache.Block.Basic

/-!
# Blocks within one process

A block that lives in the memory of one process. Every handle can write. A closed handle refuses
everything, before its index is looked at.
-/

namespace SettingsCache

/-- The slots of a block and, for each handle in the order of opening, whether it is closed. -/
structure InProcess where
  slots : Slots
  closed : Array Bool
  deriving DecidableEq

namespace InProcess

/-- A zeroed block with its first handle, number 0. -/
def new (length : Nat) : InProcess := ⟨Slots.zeroed length, #[false]⟩

/-- Open another handle; its number is that of the handles opened before. -/
def handle (b : InProcess) : Handle × InProcess :=
  (b.closed.size, { b with closed := b.closed.push false })

/-- Whether a handle is closed or was never opened. -/
def isClosed (b : InProcess) (handle : Handle) : Bool := b.closed.getD handle true

/-- What a handle reads from a slot. -/
def view (b : InProcess) (handle : Handle) (index : Nat) : Except ArrayError Generation :=
  if b.isClosed handle then .error .closed else b.slots.read index

/-- Store a value in a slot that the handle can read. -/
def write (b : InProcess) (handle : Handle) (index : Nat) (value : Generation) :
    Answered InProcess Unit :=
  match b.view handle index with
  | .ok _ => (.ok (), { b with slots := b.slots.write index value })
  | .error e => (.error e, b)

/-- Add one to a slot that the handle can read. -/
def increment (b : InProcess) (handle : Handle) (index : Nat) : Answered InProcess Generation :=
  match b.view handle index with
  | .ok value => (.ok (value + 1), { b with slots := b.slots.write index (value + 1) })
  | .error e => (.error e, b)

/-- Close a handle. -/
def close (b : InProcess) (handle : Handle) : Answered InProcess Unit :=
  (.ok (), { b with closed := b.closed.setIfInBounds handle true })

instance : GenerationBlock InProcess where
  length b _ := b.slots.size
  read b handle index := (b.view handle index, b)
  write := write
  increment := increment
  close := close
  isClosed := isClosed

end InProcess

end SettingsCache
