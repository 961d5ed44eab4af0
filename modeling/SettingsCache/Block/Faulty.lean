import SettingsCache.Block.Basic

/-!
# Blocks with faults on demand

A block whose reads and closes can be made to fail, through every handle at once, and which counts
the reads made of it. Writing is the owner's business: it needs no open handle and meets no fault.
A close that fails has closed the handle all the same.
-/

namespace SettingsCache

/-- The slots, the handles, the faults switched on and the number of reads. -/
structure Faulty where
  slots : Slots
  closed : Array Bool := #[false]
  failReads : Bool := false
  failClose : Bool := false
  reads : Nat := 0
  deriving DecidableEq

namespace Faulty

/-- A zeroed block with its first handle, number 0, and no fault. -/
def new (length : Nat) : Faulty := { slots := Slots.zeroed length }

/-- Open another handle; its number is that of the handles opened before. -/
def handle (b : Faulty) : Handle × Faulty :=
  (b.closed.size, { b with closed := b.closed.push false })

/-- Whether a handle is closed or was never opened. -/
def isClosed (b : Faulty) (handle : Handle) : Bool := b.closed.getD handle true

/-- What a handle reads from a slot. -/
def view (b : Faulty) (handle : Handle) (index : Nat) : Except ArrayError Generation :=
  if b.isClosed handle then .error .closed
  else if b.failReads then .error (.io "injected read failure")
  else b.slots.read index

/-- The block after one more read. -/
def countRead (b : Faulty) : Faulty := { b with reads := b.reads + 1 }

/-- The value of a slot, uncounted and whatever the faults; zero if there is no such slot. -/
def peek (b : Faulty) (index : Nat) : Generation := b.slots.getD index 0

/-- Store a value in a slot. -/
def write (b : Faulty) (index : Nat) (value : Generation) : Faulty :=
  { b with slots := b.slots.write index value }

/-- Add one to a slot and answer the new value. -/
def increment (b : Faulty) (index : Nat) : Generation × Faulty :=
  let value := b.peek index + 1
  (value, b.write index value)

/-- The block with a handle closed. -/
def markClosed (b : Faulty) (handle : Handle) : Faulty :=
  { b with closed := b.closed.setIfInBounds handle true }

/-- What closing a handle answers. -/
def closeAnswer (b : Faulty) : Except ArrayError Unit :=
  if b.failClose then .error (.io "injected close failure") else .ok ()

instance : GenerationBlock Faulty where
  length b _ := b.slots.size
  read b handle index := (b.view handle index, b.countRead)
  write b _ index value := (.ok (), b.write index value)
  increment b _ index := (.ok (b.increment index).1, (b.increment index).2)
  close b handle := (b.closeAnswer, b.markClosed handle)
  isClosed := isClosed

end Faulty

end SettingsCache
