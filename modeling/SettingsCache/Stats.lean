/-!
# Cache statistics

Nine counters of what a cache has done, each a 64-bit word, and the two figures read off them.
-/

namespace SettingsCache

/-- The events that a cache counts. -/
inductive Counter where
  /-- A read for the process's user answered from local values. -/
  | hit
  /-- A read for the process's user that had to go remote. -/
  | miss
  /-- A fast get call was made. -/
  | fastPathCall
  /-- A fallback query was made. -/
  | fallbackQuery
  /-- A list call was made. -/
  | listCall
  /-- A remote call failed. -/
  | remoteError
  /-- Local values were dropped because the generation moved. -/
  | invalidation
  /-- A tracker was given up because its array could not be read. -/
  | trackerError
  /-- A tracker was adopted from the service. -/
  | trackerInstalled
  deriving DecidableEq

/-- How often each event has happened. -/
structure Stats where
  hits : UInt64 := 0
  misses : UInt64 := 0
  fastPathCalls : UInt64 := 0
  fallbackQueries : UInt64 := 0
  listCalls : UInt64 := 0
  remoteErrors : UInt64 := 0
  invalidations : UInt64 := 0
  trackerErrors : UInt64 := 0
  trackersInstalled : UInt64 := 0
  deriving DecidableEq

namespace Stats

/-- Count one event. -/
def record (s : Stats) : Counter → Stats
  | .hit => { s with hits := s.hits + 1 }
  | .miss => { s with misses := s.misses + 1 }
  | .fastPathCall => { s with fastPathCalls := s.fastPathCalls + 1 }
  | .fallbackQuery => { s with fallbackQueries := s.fallbackQueries + 1 }
  | .listCall => { s with listCalls := s.listCalls + 1 }
  | .remoteError => { s with remoteErrors := s.remoteErrors + 1 }
  | .invalidation => { s with invalidations := s.invalidations + 1 }
  | .trackerError => { s with trackerErrors := s.trackerErrors + 1 }
  | .trackerInstalled => { s with trackersInstalled := s.trackersInstalled + 1 }

/-- How often one event has happened. -/
def count (s : Stats) : Counter → UInt64
  | .hit => s.hits
  | .miss => s.misses
  | .fastPathCall => s.fastPathCalls
  | .fallbackQuery => s.fallbackQueries
  | .listCall => s.listCalls
  | .remoteError => s.remoteErrors
  | .invalidation => s.invalidations
  | .trackerError => s.trackerErrors
  | .trackerInstalled => s.trackersInstalled

/-- The counters in the order of their events. -/
def toList (s : Stats) : List UInt64 :=
  [s.hits, s.misses, s.fastPathCalls, s.fallbackQueries, s.listCalls, s.remoteErrors,
    s.invalidations, s.trackerErrors, s.trackersInstalled]

/-- The share of reads answered locally, and zero when there was none. -/
def hitRate (s : Stats) : Float :=
  let total := s.hits + s.misses
  if total = 0 then 0 else s.hits.toFloat / total.toFloat

/-- The number of remote calls made to read. -/
def remoteReads (s : Stats) : UInt64 := s.fastPathCalls + s.fallbackQueries + s.listCalls

/-- Recording an event adds one to its own counter and leaves the others. -/
theorem count_record (s : Stats) (recorded counted : Counter) :
    (s.record recorded).count counted =
      if counted = recorded then s.count counted + 1 else s.count counted := by
  cases recorded <;> cases counted <;> rfl

end Stats

end SettingsCache
