import SettingsCache.Block.Basic

/-!
# Generation trackers

The service bumps a namespace's counter on every change. A tracker remembers the last value of the
counter that its owner accepted and tells whether the counter has moved since. A check that cannot
read the counter counts as a change, accepts nothing and is reported.

A tracker is started from a hand-over of the service. Time is counted in checks of the tracker: the
generation of the hand-over is accepted at time zero.
-/

namespace SettingsCache

/-- What the service hands over to start tracking a namespace. -/
structure HandOver where
  /-- A handle onto the generation block. -/
  handle : Handle
  /-- The number of slots of the block. -/
  length : Nat
  /-- The slot of the namespace's counter; a negative number means that none is assigned. -/
  index : Int32
  /-- The value of the counter when it was handed over. -/
  generation : Generation
  deriving DecidableEq

namespace HandOver

/-- The slot, if the index is that of a slot of the block. -/
def slot? (h : HandOver) : Option Nat :=
  let index := h.index.toInt
  if 0 ≤ index ∧ index < h.length then some index.toNat else none

/-- A hand-over as shown in a description. -/
def describe (h : HandOver) : String :=
  "TrackerMaterials \x7b array_len: " ++ toString h.length ++
    ", index: " ++ toString h.index.toInt ++
    ", generation: " ++ toString h.generation.toInt ++ " \x7d"

end HandOver

/-- What is remembered of one counter. -/
structure Tracker where
  /-- The handle through which the counter is read. -/
  handle : Handle
  /-- The slot of the counter. -/
  slot : Nat
  /-- The last generation accepted. -/
  accepted : Generation
  /-- Whether failures are reported to the owner. -/
  reporting : Bool := true
  /-- The number of checks made. -/
  checks : Nat := 0
  /-- The check that accepted the generation. -/
  acceptedAt : Nat := 0
  deriving DecidableEq

/-- The outcome of a check. -/
structure Check where
  /-- The tracker after the check. -/
  tracker : Tracker
  /-- Whether the counter has moved or could not be read. -/
  changed : Bool
  /-- The failures reported to the owner. -/
  reports : List ArrayError
  deriving DecidableEq

namespace Tracker

/-- The tracker of a hand-over, if its index is that of a slot. -/
def ofHandOver? (h : HandOver) (reporting : Bool := true) : Option Tracker :=
  h.slot?.map fun slot ↦
    { handle := h.handle, slot := slot, accepted := h.generation, reporting := reporting }

/-- What the owner hears of a failure. -/
def report (t : Tracker) (e : ArrayError) : List ArrayError := if t.reporting then [e] else []

/-- Compare the accepted generation with what reading the counter gave. -/
def check (t : Tracker) (current : Except ArrayError Generation) : Check :=
  let t := { t with checks := t.checks + 1 }
  match current with
  | .ok generation =>
    if generation = t.accepted then { tracker := t, changed := false, reports := [] }
    else
      { tracker := { t with accepted := generation, acceptedAt := t.checks }
        changed := true, reports := [] }
  | .error e => { tracker := t, changed := true, reports := t.report e }

/-- Check a tracker against its block. -/
def checkOn {β : Type} [GenerationBlock β] (t : Tracker) (block : β) : Check × β :=
  let (current, block) := GenerationBlock.read block t.handle t.slot
  (t.check current, block)

/-- Give a tracker up by closing its handle: what the owner hears of it, and the block. -/
def release {β : Type} [GenerationBlock β] (t : Tracker) (block : β) : List ArrayError × β :=
  match GenerationBlock.close block t.handle with
  | (.ok _, block) => ([], block)
  | (.error e, block) => (t.report e, block)

/-- A tracker as shown in a description, without the hour. -/
def describe (t : Tracker) : String :=
  "GenerationTracker \x7b index: " ++ toString t.slot ++
    ", observed: " ++ toString t.accepted.toInt ++
    ", observed_at: <time>, has_error_callback: " ++
    (if t.reporting then "true" else "false") ++ " \x7d"

end Tracker

end SettingsCache
