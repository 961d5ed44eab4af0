import SettingsCache.Block.Faulty
import SettingsCache.Remote

/-!
# The settings service

A settings service held in memory, whose answers can be made to fail one by one. It keeps a table
of entries for each namespace and user and one generation counter for each namespace; every change
to a namespace bumps its counter. Requests that name no user are attributed to the service's own.

The service remembers every handle it handed out, every fast read it was asked for and how often
it was called.
-/

namespace SettingsCache

/-- What the service keeps of one setting. -/
structure Entry where
  value : Option String := none
  default : Option String := none
  tag : Option String := none
  deriving DecidableEq

namespace Entry

/-- The entry after a write. -/
def put (e : Entry) (request : PutRequest) : Entry where
  value := request.value
  default := if request.makeDefault then request.value else e.default
  tag := request.tag

/-- The entry with its value back at the default. -/
def restore (e : Entry) : Entry := { e with value := e.default }

/-- The entry after a reset. A reset of package defaults touches only entries with the tag it
names; a reset of untrusted changes takes the tag away. -/
def reset (e : Entry) (mode : ResetMode) (tag : Option String) : Entry :=
  match mode with
  | .packageDefaults => if tag.isSome && e.tag == tag then e.restore else e
  | .untrustedDefaults | .trustedDefaults => e.restore
  | .untrustedChanges => { e.restore with tag := none }

end Entry

/-- The entries of one namespace and user. -/
abbrev Table := NameMap Entry

/-- What can be made to go wrong with the service. -/
inductive Fault where
  /-- Fast reads fail. -/
  | failGet
  /-- Fast reads are not supported. -/
  | getUnsupported
  /-- Fast reads are answered without a reply. -/
  | emptyGetReply
  /-- Writes and resets fail. -/
  | failWrites
  /-- Queries fail. -/
  | failQuery
  /-- Listings fail. -/
  | failList
  /-- No hand-over is ever given. -/
  | withholdTracker
  /-- Rows come back under another name. -/
  | misnamedQueryRows
  deriving DecidableEq

namespace Fault

/-- Every fault. -/
def all : List Fault :=
  [.failGet, .getUnsupported, .emptyGetReply, .failWrites, .failQuery, .failList,
    .withholdTracker, .misnamedQueryRows]

/-- The name of a fault. -/
def name : Fault → String
  | .failGet => "FailGet"
  | .getUnsupported => "GetUnsupported"
  | .emptyGetReply => "EmptyGetReply"
  | .failWrites => "FailWrites"
  | .failQuery => "FailQuery"
  | .failList => "FailList"
  | .withholdTracker => "WithholdTracker"
  | .misnamedQueryRows => "MisnamedQueryRows"

/-- The fault of an exactly written name. -/
def ofName? (name : String) : Option Fault := all.find? fun fault ↦ fault.name == name

end Fault

/-- How often each verb was called. -/
structure CallCounts where
  get : Nat := 0
  put : Nat := 0
  query : Nat := 0
  list : Nat := 0
  reset : Nat := 0
  deriving DecidableEq

/-- The number of calls that read values. -/
def CallCounts.reads (c : CallCounts) : Nat := c.get + c.query + c.list

/-- The state of the service. -/
structure Service where
  /-- The user to whom requests without a user are attributed. -/
  ownUser : UserId
  /-- The generation counters, one slot for each namespace. -/
  block : Faulty := Faulty.new Namespace.all.length
  /-- The entries of each namespace and user. -/
  tables : PerNamespace (Std.ExtTreeMap UserId Table) := PerNamespace.ofFun fun _ ↦ ∅
  /-- The handles handed out, oldest first. -/
  handles : Array Handle := #[]
  /-- The faults switched on. -/
  faults : List Fault := []
  /-- The index handed over in place of the namespace's slot. -/
  trackerIndex : Option Int32 := none
  /-- The fast reads asked for, oldest first. -/
  getRequests : Array (Namespace × GetRequest) := #[]
  /-- How often each verb was called. -/
  calls : CallCounts := {}

namespace Service

/-! ## Tables -/

/-- The entries of a namespace and user. -/
def table (s : Service) (ns : Namespace) (user : UserId) : Table :=
  (s.tables.get ns).getD user ∅

/-- The entry of a name, if there is one. -/
def entry? (s : Service) (ns : Namespace) (user : UserId) (name : String) : Option Entry :=
  (s.table ns user)[name]?

/-- Replace the entries of a namespace and user. -/
def setTable (s : Service) (ns : Namespace) (user : UserId) (table : Table) : Service :=
  { s with tables := s.tables.modify ns fun users ↦ users.insert user table }

/-- The text that a name has, if it is set. -/
def value (s : Service) (ns : Namespace) (user : UserId) (name : String) : Option String :=
  (s.entry? ns user name).bind Entry.value

/-- The default that a name has, if there is one. -/
def defaultValue (s : Service) (ns : Namespace) (user : UserId) (name : String) : Option String :=
  (s.entry? ns user name).bind Entry.default

/-- The tag that a name has, if there is one. -/
def tag (s : Service) (ns : Namespace) (user : UserId) (name : String) : Option String :=
  (s.entry? ns user name).bind Entry.tag

/-- Change the entry of a name, making one if there is none. -/
def updateEntry (s : Service) (ns : Namespace) (user : UserId) (name : String)
    (f : Entry → Entry) : Service :=
  let table := s.table ns user
  s.setTable ns user (table.insert name (f (table.getD name {})))

/-- The user that a request is for. -/
def requestUser (s : Service) (user : Option UserId) : UserId := user.getD s.ownUser

/-! ## Generations -/

/-- The value of a namespace's counter. -/
def generation (s : Service) (ns : Namespace) : Generation := s.block.peek ns.slot

/-- Put a namespace's counter to a value. -/
def setGeneration (s : Service) (ns : Namespace) (value : Generation) : Service :=
  { s with block := s.block.write ns.slot value }

/-- Add one to a namespace's counter. -/
def bump (s : Service) (ns : Namespace) : Service :=
  { s with block := (s.block.increment ns.slot).2 }

/-- Write a value as another process would. -/
def insert (s : Service) (ns : Namespace) (user : UserId) (name : String)
    (value : Option String) : Service :=
  (s.updateEntry ns user name fun e ↦ { e with value := value }).bump ns

/-! ## Faults and hand-overs -/

/-- Whether a fault is switched on. -/
def hasFault (s : Service) (fault : Fault) : Bool := s.faults.contains fault

/-- Switch a fault on or off. -/
def setFault (s : Service) (fault : Fault) (on : Bool) : Service :=
  let others := s.faults.filter (· != fault)
  { s with faults := if on then fault :: others else others }

/-- Open a handle onto the block. -/
def openHandle (s : Service) : Handle × Service :=
  let (handle, block) := s.block.handle
  (handle, { s with block := block })

/-- A hand-over on a new handle, unless the service withholds it. -/
def handOver (s : Service) (ns : Namespace) (generation : Generation) :
    Option HandOver × Service :=
  if s.hasFault .withholdTracker then (none, s)
  else
    let (handle, s) := s.openHandle
    let h : HandOver :=
      { handle := handle, length := s.block.slots.size
        index := s.trackerIndex.getD (Int32.ofNat ns.slot), generation := generation }
    (some h, { s with handles := s.handles.push handle })

/-- A hand-over if one is asked for. -/
def handOverIf (s : Service) (track : Bool) (ns : Namespace) (generation : Generation) :
    Option HandOver × Service :=
  if track then s.handOver ns generation else (none, s)

/-! ## Calls -/

/-- The complaint of a fault that was switched on. -/
def injected (ns : Namespace) (verb : Verb) : RemoteError :=
  .communication (ns.method verb) "injected failure"

/-- The service once it has heard a call: the call is counted, and a fast read is written down. -/
def heard (s : Service) (ns : Namespace) {verb : Verb} : Call verb → Service
  | .get request => { s with
      calls := { s.calls with get := s.calls.get + 1 }
      getRequests := s.getRequests.push (ns, request) }
  | .put _ => { s with calls := { s.calls with put := s.calls.put + 1 } }
  | .query _ _ => { s with calls := { s.calls with query := s.calls.query + 1 } }
  | .list _ => { s with calls := { s.calls with list := s.calls.list + 1 } }
  | .reset _ => { s with calls := { s.calls with reset := s.calls.reset + 1 } }

/-- Reply to a fast read with the value there is, and with a hand-over at a generation. -/
def replyGet (s : Service) (ns : Namespace) (request : GetRequest) (generation : Generation) :
    Verb.Outcome .get × Service :=
  let value := s.value ns (s.requestUser request.user) request.name
  let (handOver, s) := s.handOverIf request.track ns generation
  (.ok (some ⟨value, handOver⟩), s)

/-- Answer a fast read. -/
def get (s : Service) (ns : Namespace) (request : GetRequest) :
    Verb.Outcome .get × Service :=
  let s := s.heard ns (.get request)
  if s.hasFault .getUnsupported then (.error (.unsupported (ns.method .get)), s)
  else if s.hasFault .failGet then (.error (injected ns .get), s)
  else if s.hasFault .emptyGetReply then (.ok none, s)
  else s.replyGet ns request (s.generation ns)

/-- Answer a write. -/
def put (s : Service) (ns : Namespace) (request : PutRequest) :
    Verb.Outcome .put × Service :=
  let s := s.heard ns (.put request)
  if s.hasFault .failWrites then (.error (injected ns .put), s)
  else
    (.ok (), (s.updateEntry ns request.user request.name fun e ↦ e.put request).bump ns)

/-- Answer a query of the backing collection. -/
def query (s : Service) (ns : Namespace) (name : String) (user : Option UserId) :
    Verb.Outcome .query × Service :=
  let s := s.heard ns (.query name user)
  if s.hasFault .failQuery then (.error (injected ns .query), s)
  else
    let row := (s.entry? ns (s.requestUser user) name).map fun e ↦
      ⟨if s.hasFault .misnamedQueryRows then name ++ "_shadow" else name, e.value⟩
    (.ok row, s)

/-- Answer a reset. -/
def reset (s : Service) (ns : Namespace) (request : ResetRequest) :
    Verb.Outcome .reset × Service :=
  let s := s.heard ns (.reset request)
  if s.hasFault .failWrites then (.error (injected ns .reset), s)
  else
    let table := (s.table ns request.user).map fun _ e ↦ e.reset request.mode request.tag
    (.ok (), (s.setTable ns request.user table).bump ns)

/-- Reply to a listing with the values there are, and with a hand-over at a generation. -/
def replyList (s : Service) (ns : Namespace) (request : ListRequest) (generation : Generation) :
    Verb.Outcome .list × Service :=
  let table := s.table ns (s.requestUser request.user)
  let values := (NameMap.withStem table request.stem).select Entry.value
  let (handOver, s) := s.handOverIf request.track ns generation
  (.ok ⟨values, handOver⟩, s)

/-- Answer a listing. -/
def list (s : Service) (ns : Namespace) (request : ListRequest) :
    Verb.Outcome .list × Service :=
  let s := s.heard ns (.list request)
  if s.hasFault .failList then (.error (injected ns .list), s)
  else s.replyList ns request (s.generation ns)

/-- Answer a call. -/
def serve (s : Service) (ns : Namespace) {verb : Verb} : Call verb → verb.Outcome × Service
  | .get request => s.get ns request
  | .put request => s.put ns request
  | .query name user => s.query ns name user
  | .list request => s.list ns request
  | .reset request => s.reset ns request

/-! ### Calls in two parts

Fast reads and listings look at the counter first and at the values after it, so that a change may
come in between. -/

/-- Hear a call and note where the counter stands, if the call is one that goes on to look at
values. -/
def note? (s : Service) (ns : Namespace) {verb : Verb} : Call verb → Option (Generation × Service)
  | .get request =>
    if [.getUnsupported, .failGet, .emptyGetReply].any s.hasFault then none
    else some (s.generation ns, s.heard ns (.get request))
  | .list request =>
    if s.hasFault .failList then none
    else some (s.generation ns, s.heard ns (.list request))
  | .put _ | .query _ _ | .reset _ => none

/-- Reply to a call for which a generation was noted. -/
def reply (s : Service) (ns : Namespace) {verb : Verb} (call : Call verb)
    (generation : Generation) : verb.Outcome × Service :=
  match call with
  | .get request => s.replyGet ns request generation
  | .list request => s.replyList ns request generation
  | .put request => s.put ns request
  | .query name user => s.query ns name user
  | .reset request => s.reset ns request

/-! ## Handles -/

/-- Whether each handle handed out is closed, oldest first. -/
def closedHandles (s : Service) : List Bool := s.handles.toList.map s.block.isClosed

/-- What is wrong with the handles handed out, if only the newest should be open. -/
inductive HandleFault where
  /-- A handle that is not the newest is open, by its place among those handed out. -/
  | olderOpen (place : Nat)
  /-- The newest handle is closed. -/
  | newestClosed
  deriving DecidableEq

/-- The wording of a handle fault. -/
def HandleFault.message : HandleFault → String
  | .olderOpen place => "Handle " ++ toString place ++ " should be closed"
  | .newestClosed => "Newest handle should be open"

/-- Check that every handle handed out is closed, the newest excepted, and that one is open. -/
def auditHandles (s : Service) : Except HandleFault Unit :=
  match s.closedHandles.reverse with
  | [] => .ok ()
  | newest :: older =>
    match older.reverse.findIdx? (· == false) with
    | some place => .error (.olderOpen place)
    | none => if newest then .error .newestClosed else .ok ()

/-! ## Fixtures -/

/-- A service for the primary user that already holds a few values. -/
def seeded : Service :=
  let other : UserId := ⟨10⟩
  let s : Service := { ownUser := .primary }
  let s := s.insert .global .primary "wifi_on" (some "1")
  let s := s.insert .global .primary "adb_enabled" (some "0")
  let s := s.insert .system .primary "screen_brightness" (some "102")
  s.insert .secure other "wifi_on" (some "0")

end Service

end SettingsCache
