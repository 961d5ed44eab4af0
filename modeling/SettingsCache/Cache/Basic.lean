import SettingsCache.Config.Basic
import SettingsCache.Remote
import SettingsCache.Stats

/-!
# The cache of a namespace

A cache keeps the values of one namespace that were read for its owner, the user on whose behalf
its process runs. It holds a value only together with the generation under which the value was
fetched, and gives all of them up when its tracker tells that the counter has moved.

A cache makes no remote call and touches no generation block itself. It acts in turns: a turn
starts from the cache and a view of the block, and ends with the cache, what to do to the block
and a result. Between two turns anything may happen to the service and to the cache.

A value that was on its way while the counter moved is not kept: `complete` compares the
generation known before the call with the one that the tracker has accepted by the end of it.
-/

namespace SettingsCache

/-- What a handle would read from a slot at one moment. -/
abbrev BlockView := Handle → Nat → Except ArrayError Generation

/-- What a cache does to the generation block. -/
inductive Access where
  /-- Read a slot through a handle. -/
  | read (handle : Handle) (slot : Nat)
  /-- Close a handle. -/
  | close (handle : Handle)
  deriving DecidableEq

/-- What a cache holds. -/
structure Store where
  /-- The texts by name; a name without a text is known to be unset. -/
  values : NameMap (Option String) := ∅
  /-- The stems whose names were listed in full. -/
  stems : NameSet := ∅
  /-- The tracker that says whether the values still stand. -/
  tracker : Option Tracker := none

namespace Store

/-- The generation that the values go with, if there is a tracker. -/
def generation (s : Store) : Option Generation := s.tracker.map Tracker.accepted

/-- Give the values up and keep the tracker. -/
def forget (s : Store) : Store := { tracker := s.tracker }

/-- Keep the value of one name. -/
def keepValue (s : Store) (name : String) (value : Option String) : Store :=
  { s with values := s.values.insert name value }

/-- Keep the values of every name with a stem. -/
def keepListing (s : Store) (stem : String) (values : NameMap String) : Store :=
  { s with
    values := NameMap.insertAll s.values (values.map fun _ text ↦ some text)
    stems := s.stems.insert stem }

/-- The set values under names with a stem. -/
def listing (s : Store) (stem : String) : NameMap String :=
  NameMap.select (NameMap.withStem s.values stem) id

end Store

/-- The cache of one namespace in a process. -/
structure Cache where
  ns : Namespace
  /-- The user whose values may be kept. -/
  owner : UserId
  config : Config
  store : Store := {}
  stats : Stats := {}

/-- What a cache does at one moment: the cache afterwards, what it does to the block in order, and
a result. -/
structure Turn (α : Type) where
  cache : Cache
  accesses : List Access
  result : α

/-- Go on in the same turn from the cache and the result reached so far. -/
def Turn.bind {α β : Type} (turn : Turn α) (f : Cache → α → Turn β) : Turn β :=
  let next := f turn.cache turn.result
  { next with accesses := turn.accesses ++ next.accesses }

/-- What a read remembers while a call of it is answered. -/
structure Fetch where
  /-- The user named in the calls; none is the owner. -/
  user : Option UserId
  /-- Whether the answer may be kept. -/
  caching : Bool
  /-- The generation known before the call. -/
  observed : Option Generation
  deriving DecidableEq

namespace Cache

/-- Count one event. -/
def record (c : Cache) (counter : Counter) : Cache :=
  { c with stats := c.stats.record counter }

/-- The last generation accepted, if there is a tracker. -/
def generation (c : Cache) : Option Generation := c.store.generation

/-- The number of names kept, the unset ones included. -/
def size (c : Cache) : Nat := c.store.values.size

/-- Whether there is a tracker. -/
def isTracking (c : Cache) : Bool := c.store.tracker.isSome

/-- A cache as shown in a description, without what it holds. -/
def describe (c : Cache) : String :=
  "NameValueCache \x7b namespace: " ++ c.ns.label ++ ", self_user: " ++ c.owner.describe ++
    ", config: " ++ c.config.describe ++ ", .. \x7d"

/-- Close the tracker's handle. -/
def releaseTracker (c : Cache) : List Access :=
  c.store.tracker.toList.map fun tracker ↦ .close tracker.handle

/-- Give up the tracker and every value. -/
def clear (c : Cache) : Turn Unit := ⟨{ c with store := {} }, c.releaseTracker, ()⟩

/-- Bring the values in line with the shared counter. The result is the generation they go with,
or none if there is no usable tracker. -/
def sync (c : Cache) (view : BlockView) : Turn (Option Generation) :=
  match c.store.tracker with
  | none => ⟨c, [], none⟩
  | some tracker =>
    let read := .read tracker.handle tracker.slot
    let check := tracker.check (view tracker.handle tracker.slot)
    let checked := { c with store := { c.store with tracker := some check.tracker } }
    if !check.reports.isEmpty then
      let cleared := (checked.record .trackerError).clear
      ⟨cleared.cache, read :: cleared.accesses, none⟩
    else if check.changed then
      let moved := checked.record .invalidation
      ⟨{ moved with store := moved.store.forget }, [read], some check.tracker.accepted⟩
    else
      ⟨checked, [read], some check.tracker.accepted⟩

/-- Track by what the service handed over. The values known so far are given up with the old
tracker. A hand-over whose index is no slot is closed again, and all else stays. The result is
the generation handed over, if it is tracked now. -/
def adopt (c : Cache) (handOver : HandOver) : Turn (Option Generation) :=
  match Tracker.ofHandOver? handOver with
  | none => ⟨c, [.close handOver.handle], none⟩
  | some tracker =>
    ⟨{ c with store := { tracker := some tracker } }.record .trackerInstalled, c.releaseTracker,
      some handOver.generation⟩

/-- Track by a hand-over if there is one. -/
def adopt? (c : Cache) : Option HandOver → Turn (Option Generation)
  | none => ⟨c, [], none⟩
  | some handOver => c.adopt handOver

/-- Finish a read that was answered: adopt the hand-over, if any, and keep the answer if the
generation did not move during the call. The result is the generation that the answer is known to
go with. -/
def complete (c : Cache) (fetch : Fetch) (handOver : Option HandOver) (keep : Store → Store) :
    Turn (Option Generation) :=
  if fetch.caching then
    (c.adopt? handOver).bind fun c adopted ↦
      if c.generation.isSome && c.generation == adopted.or fetch.observed then
        ⟨{ c with store := keep c.store }, [], c.generation⟩
      else
        ⟨c, [], none⟩
  else
    ⟨c, handOver.toList.map fun handOver ↦ .close handOver.handle, none⟩

end Cache

end SettingsCache
