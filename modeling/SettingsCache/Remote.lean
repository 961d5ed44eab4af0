import SettingsCache.NameMap
import SettingsCache.ResetMode
import SettingsCache.User
import SettingsCache.Tracker

/-!
# Remote calls

The calls that a client makes of the settings service, one kind for each verb, and what each verb
answers. Reads and listings may ask for a hand-over, with which the client can track the
namespace's generation. A service need not implement resets and listings.
-/

namespace SettingsCache

/-- What a remote call does. -/
inductive Verb where
  /-- Read one setting by the fast path. -/
  | get
  /-- Write one setting. -/
  | put
  /-- Look one setting up in the backing collection. -/
  | query
  /-- List the settings whose names begin with a stem. -/
  | list
  /-- Reset values to their defaults. -/
  | reset
  deriving DecidableEq

namespace Verb

/-- The name of a verb. -/
def name : Verb → String
  | .get => "get"
  | .put => "put"
  | .query => "query"
  | .list => "list"
  | .reset => "reset"

/-- The verb of an exactly written name. -/
def ofName? (name : String) : Option Verb :=
  [get, put, query, list, reset].find? fun verb ↦ verb.name == name

/-- Whether every service implements the verb. -/
def isRequired : Verb → Bool
  | .get | .put | .query => true
  | .list | .reset => false

end Verb

/-- The remote method of a verb in a namespace; for a query, the collection's address. -/
def Namespace.method (ns : Namespace) : Verb → String
  | .get => "GET_" ++ ns.tableName
  | .put => "PUT_" ++ ns.tableName
  | .query => ns.contentUri
  | .list => "LIST_" ++ ns.tableName
  | .reset => "RESET_" ++ ns.tableName

/-- A fast read of one setting. -/
structure GetRequest where
  name : String
  /-- The user read for; none is the caller's own. -/
  user : Option UserId
  /-- Whether a hand-over is asked for. -/
  track : Bool
  deriving DecidableEq

/-- The answer to a fast read. -/
structure GetReply where
  value : Option String
  handOver : Option HandOver
  deriving DecidableEq

/-- A write of one setting. -/
structure PutRequest where
  name : String
  /-- The new text; none clears the setting. -/
  value : Option String
  user : UserId
  /-- The mark by which later resets select the setting. -/
  tag : Option String
  /-- Whether the new text becomes the default as well. -/
  makeDefault : Bool
  deriving DecidableEq

/-- A reset of a user's settings to their defaults. -/
structure ResetRequest where
  mode : ResetMode
  tag : Option String
  user : UserId
  deriving DecidableEq

/-- A listing of the set values under names with a stem. -/
structure ListRequest where
  stem : String
  /-- The user listed for; none is the caller's own. -/
  user : Option UserId
  /-- Whether a hand-over is asked for. -/
  track : Bool
  deriving DecidableEq

/-- The answer to a listing. -/
structure ListReply where
  values : NameMap String
  handOver : Option HandOver

/-- A row of the backing collection. -/
structure Row where
  name : String
  value : Option String
  deriving DecidableEq

/-- A remote call of a verb. -/
inductive Call : Verb → Type where
  | get (request : GetRequest) : Call .get
  | put (request : PutRequest) : Call .put
  | query (name : String) (user : Option UserId) : Call .query
  | list (request : ListRequest) : Call .list
  | reset (request : ResetRequest) : Call .reset

/-- What a verb answers when it succeeds. A fast read may come back without a reply, and a query
may find no row. -/
def Verb.Reply : Verb → Type
  | .get => Option GetReply
  | .put => Unit
  | .query => Option Row
  | .list => ListReply
  | .reset => Unit

/-- The outcome of a call of a verb. -/
abbrev Verb.Outcome (verb : Verb) : Type := Except RemoteError verb.Reply

end SettingsCache
