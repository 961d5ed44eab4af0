import SettingsCache.Cache.Basic

/-!
# Operations on a cache

An operation reads or writes settings through a cache. It begins with a turn of the cache, and
each turn either finishes it or makes a remote call, whose outcome the next turn is given. While
the call is out, the operation is held by what is pending of it, and other operations may have
turns of their own.

A lookup goes from the local values to the fast read and from there to the query; a listing goes
from the local values to the list call. Writes and resets go out at once and leave the values
kept as they are: the bump of the counter that follows a write gives them up.

No operation makes more than two calls: the number still to come falls with each turn, by
`callsLeft_resume_lt`.
-/

namespace SettingsCache

/-- The three kinds of operations, by what they answer. -/
inductive Kind where
  | lookup
  | listing
  | write
  deriving DecidableEq

/-- What an operation answers. A write answers whether it went through. -/
abbrev Kind.Answer : Kind → Type
  | .lookup => Except RemoteError Reading
  | .listing => Except RemoteError (NameMap String)
  | .write => Bool

/-- An operation of a kind. -/
inductive Operation : Kind → Type where
  /-- Read one setting for a user. -/
  | lookup (name : String) (user : UserId) : Operation .lookup
  /-- Read every set value under a name with a stem for a user. -/
  | list (stem : String) (user : UserId) : Operation .listing
  /-- Write one setting. -/
  | put (request : PutRequest) : Operation .write
  /-- Reset a user's settings to their defaults. -/
  | reset (request : ResetRequest) : Operation .write

/-- What is left of an operation while a call of a verb is out. -/
inductive Pending : Verb → Kind → Type where
  | get (name : String) (fetch : Fetch) : Pending .get .lookup
  | query (name : String) (fetch : Fetch) : Pending .query .lookup
  | list (stem : String) (fetch : Fetch) : Pending .list .listing
  | put : Pending .put .write
  | reset : Pending .reset .write

/-- How far an operation has come. -/
inductive Progress (kind : Kind) where
  /-- It is finished. -/
  | done (answer : kind.Answer)
  /-- It has made a call. -/
  | calling {verb : Verb} (call : Call verb) (pending : Pending verb kind)

namespace Pending

variable {verb : Verb} {kind : Kind}

/-- The largest number of calls that an operation has still to make or to be answered. -/
def callsLeft : Pending verb kind → Nat
  | .get _ _ => 2
  | .query _ _ | .list _ _ | .put | .reset => 1

end Pending

/-- The largest number of calls that an operation has still to make or to be answered. -/
def Progress.callsLeft {kind : Kind} : Progress kind → Nat
  | .done _ => 0
  | .calling _ pending => pending.callsLeft

namespace Cache

/-- Begin a read for a user: sync if the answer may be kept. -/
def beginRead (c : Cache) (view : BlockView) (user : UserId) : Turn Fetch :=
  let scope := Scope.resolve user c.owner
  let caching := scope.isOwn && c.config.caching
  let synced := if caching then c.sync view else ⟨c, [], none⟩
  ⟨synced.cache, synced.accesses, ⟨scope.wireUser, caching, synced.result⟩⟩

/-- The reading that is known locally. -/
def knownReading? (c : Cache) (fetch : Fetch) (name : String) : Option Reading := do
  let generation ← fetch.observed
  let value ← c.store.values[name]?
  return Reading.ofCache value generation

/-- The listing that is known locally. -/
def knownListing? (c : Cache) (fetch : Fetch) (stem : String) : Option (NameMap String) :=
  if fetch.observed.isSome && c.store.stems.contains stem then some (c.store.listing stem)
  else none

/-- Whether a read should ask for a hand-over. -/
def wantsHandOver (c : Cache) (fetch : Fetch) : Bool :=
  fetch.caching && c.config.tracking && !c.isTracking

/-- Count a read that goes out; those for other users are not counted. -/
def recordMiss (c : Cache) (fetch : Fetch) : Cache :=
  if fetch.user.isNone then c.record .miss else c

/-- Finish a lookup that was answered from a remote source. -/
def completeLookup (c : Cache) (fetch : Fetch) (name : String) (value : Option String)
    (source : Source) (handOver : Option HandOver) : Turn (Progress .lookup) :=
  (c.complete fetch handOver fun store ↦ store.keepValue name value).bind fun c generation ↦
    ⟨c, [], .done (.ok ⟨value, source, generation⟩)⟩

/-- Finish a listing that was answered. -/
def completeListing (c : Cache) (fetch : Fetch) (stem : String) (reply : ListReply) :
    Turn (Progress .listing) :=
  let keep := fun store ↦ store.keepListing stem reply.values
  (c.complete fetch reply.handOver keep).bind fun c _ ↦ ⟨c, [], .done (.ok reply.values)⟩

/-- Go on by a query, after the fast path gave no answer; without queries, fail as told. -/
def fallBack (c : Cache) (fetch : Fetch) (name : String) (failure : RemoteError) :
    Turn (Progress .lookup) :=
  if c.config.fallback then
    ⟨c.record .fallbackQuery, [], .calling (.query name fetch.user) (.query name fetch)⟩
  else
    ⟨c, [], .done (.error failure)⟩

/-- The outward call of a lookup: a fast read, or a query if there are no fast reads. -/
def goOutForLookup (c : Cache) (fetch : Fetch) (name : String) : Turn (Progress .lookup) :=
  if c.config.fastPath then
    let request := ⟨name, fetch.user, c.wantsHandOver fetch⟩
    ⟨c.record .fastPathCall, [], .calling (.get request) (.get name fetch)⟩
  else
    c.fallBack fetch name (.unsupported (c.ns.method .get))

/-- The outward call of a listing. -/
def goOutForListing (c : Cache) (fetch : Fetch) (stem : String) : Turn (Progress .listing) :=
  if c.config.fastPath then
    let request := ⟨stem, fetch.user, c.wantsHandOver fetch⟩
    ⟨c.record .listCall, [], .calling (.list request) (.list stem fetch)⟩
  else
    ⟨c, [], .done (.error (.unsupported (c.ns.method .list)))⟩

/-- The first turn of an operation. -/
def start (c : Cache) (view : BlockView) {kind : Kind} :
    Operation kind → Turn (Progress kind)
  | .lookup name user =>
    (c.beginRead view user).bind fun c fetch ↦
      match c.knownReading? fetch name with
      | some reading => ⟨c.record .hit, [], .done (.ok reading)⟩
      | none => (c.recordMiss fetch).goOutForLookup fetch name
  | .list stem user =>
    (c.beginRead view user).bind fun c fetch ↦
      match c.knownListing? fetch stem with
      | some values => ⟨c.record .hit, [], .done (.ok values)⟩
      | none => (c.recordMiss fetch).goOutForListing fetch stem
  | .put request => ⟨c, [], .calling (.put request) .put⟩
  | .reset request => ⟨c, [], .calling (.reset request) .reset⟩

/-- The turn of an operation whose call has been answered. -/
def resume (c : Cache) {verb : Verb} {kind : Kind} (pending : Pending verb kind)
    (outcome : verb.Outcome) : Turn (Progress kind) :=
  match pending, outcome with
  | .get name fetch, .ok (some reply) =>
    c.completeLookup fetch name reply.value .fastPath reply.handOver
  | .get name fetch, .ok none =>
    c.fallBack fetch name (.communication (c.ns.method .get) "empty reply")
  | .get name fetch, .error e => (c.record .remoteError).fallBack fetch name e
  | .query name fetch, .ok row =>
    let value := (row.filter fun row ↦ row.name == name).bind Row.value
    c.completeLookup fetch name value .fallback none
  | .query _ _, .error e => ⟨c.record .remoteError, [], .done (.error e)⟩
  | .list stem fetch, .ok reply => c.completeListing fetch stem reply
  | .list _ _, .error e => ⟨c.record .remoteError, [], .done (.error e)⟩
  | .put, .ok _ | .reset, .ok _ => ⟨c, [], .done true⟩
  | .put, .error _ | .reset, .error _ => ⟨c.record .remoteError, [], .done false⟩

theorem callsLeft_fallBack_le (c : Cache) (fetch : Fetch) (name : String) (e : RemoteError) :
    (c.fallBack fetch name e).result.callsLeft ≤ 1 := by
  unfold fallBack
  split <;> simp [Progress.callsLeft, Pending.callsLeft]

/-- Each answered call leaves fewer calls to come. -/
theorem callsLeft_resume_lt (c : Cache) {verb : Verb} {kind : Kind} (pending : Pending verb kind)
    (outcome : verb.Outcome) :
    (c.resume pending outcome).result.callsLeft < pending.callsLeft := by
  cases pending <;> rcases outcome with e | reply
  case get.ok =>
    rcases reply with _ | reply
    · exact Nat.lt_succ_of_le (callsLeft_fallBack_le ..)
    · exact Nat.zero_lt_succ 1
  case get.error => exact Nat.lt_succ_of_le (callsLeft_fallBack_le ..)
  all_goals exact Nat.zero_lt_one

end Cache

end SettingsCache
