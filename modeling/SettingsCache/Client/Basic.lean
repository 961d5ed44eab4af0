import SettingsCache.Provider

/-!
# Clients

A client is a process's access to the settings service: one cache for each namespace, all of one
configuration and for the process's user. What a client can do is an `Action`, an operation on one
of its caches together with what the caller makes of the answer; actions are named here and in
`Client.Typed`, and `perform` carries them out.
-/

namespace SettingsCache

/-- The caches of a process. -/
structure Client where
  /-- The user the process runs as. -/
  user : UserId
  caches : PerNamespace Cache

/-- An operation on one cache of a client, and what is made of its answer. -/
structure Action (α : Type) where
  ns : Namespace
  {kind : Kind}
  operation : Operation kind
  finish : kind.Answer → α

/-- An action whose result is passed on through a function. -/
def Action.map {α β : Type} (action : Action α) (f : α → β) : Action β :=
  ⟨action.ns, action.operation, fun answer ↦ f (action.finish answer)⟩

namespace Client

/-- The empty caches of a user's process, whether or not the configuration makes sense. -/
def unchecked (user : UserId) (config : Config) : Client where
  user := user
  caches := PerNamespace.ofFun fun ns ↦ { ns := ns, owner := user, config := config }

/-- The empty caches of a user's process, if the configuration passes validation. -/
def create (user : UserId) (config : Config) : Except Error Client :=
  match config.validated with
  | .ok config => .ok (unchecked user config)
  | .error e => .error (.config e)

/-- The cache of a namespace. -/
def cache (client : Client) (ns : Namespace) : Cache := client.caches.get ns

/-- Replace the cache of a namespace. -/
def setCache (client : Client) (ns : Namespace) (cache : Cache) : Client :=
  { client with caches := client.caches.set ns cache }

/-- The statistics of every cache, in table order. -/
def stats (client : Client) : List (Namespace × Stats) :=
  Namespace.all.map fun ns ↦ (ns, (client.cache ns).stats)

/-- Give up the trackers and values of every cache: the client, and what it does to the block. -/
def clear (client : Client) : Client × List Access :=
  ({ client with caches := client.caches.map fun cache ↦ cache.clear.cache },
    Namespace.all.flatMap fun ns ↦ (client.cache ns).clear.accesses)

/-- What the client does to the block when the process ends: every tracker is released. -/
def release (client : Client) : List Access :=
  Namespace.all.flatMap fun ns ↦ (client.cache ns).releaseTracker

/-! ## Actions -/

/-- Read a setting for a user, telling where the answer came from. -/
def lookup (ns : Namespace) (name : String) (user : UserId) : Action (Except Error Reading) :=
  ⟨ns, .lookup name user, Except.mapError .remote⟩

/-- The text of a setting; none if it is unset or could not be read. -/
def text (ns : Namespace) (name : String) (user : UserId) : Action (Option String) :=
  (lookup ns name user).map fun
    | .ok reading => reading.value
    | .error _ => none

/-- Every set value under a name with a stem. -/
def texts (ns : Namespace) (stem : String) (user : UserId) :
    Action (Except Error (NameMap String)) :=
  ⟨ns, .list stem user, Except.mapError .remote⟩

/-- Write a setting; the result tells whether the write went through. -/
def put (ns : Namespace) (request : PutRequest) : Action Bool := ⟨ns, .put request, id⟩

/-- Write a setting's text, or clear it, without a tag and leaving its default. -/
def putText (ns : Namespace) (name : String) (text : Option String) (user : UserId) :
    Action Bool :=
  put ns { name := name, value := text, user := user, tag := none, makeDefault := false }

/-- Reset a user's settings to their defaults. -/
def reset (ns : Namespace) (request : ResetRequest) : Action Bool := ⟨ns, .reset request, id⟩

/-- Carry an action out. -/
def perform {σ α : Type} [Provider σ] (client : Client) (provider : σ) (action : Action α) :
    Performed Client σ α :=
  let performed := (client.cache action.ns).perform provider action.operation
  ⟨client.setCache action.ns performed.state, performed.provider,
    action.finish performed.answer⟩

end Client

end SettingsCache
