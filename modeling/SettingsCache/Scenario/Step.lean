import SettingsCache.Scenario.Answer

/-!
# Steps of a scenario

What a scenario can have done: actions on the caches of a process, looks at these caches, changes
of the service behind their back, and hooks.

A hook waits for the next remote call of its verb that a cache makes. Its first steps run before
the call is answered, and its last ones between the answer and the cache's next turn; the answer
itself is the service's or one that the hook scripts.
-/

namespace SettingsCache.Scenario

/-- A hand-over that a scripted reply is to carry, on a new handle. -/
structure Offer where
  index : Int32
  generation : Generation
  deriving DecidableEq

/-- A scripted reply to a call of a verb. -/
inductive Reply : Verb → Type where
  /-- The call fails. -/
  | failure {verb : Verb} (e : RemoteError) : Reply verb
  /-- A fast read comes back without a reply. -/
  | absent : Reply .get
  | value (value : Option String) (offer : Option Offer) : Reply .get
  | row (row : Option Row) : Reply .query
  | values (values : NameMap String) (offer : Option Offer) : Reply .list
  | written : Reply .put
  | restored : Reply .reset

/-- What a scenario asks of the service, or does to it, behind the back of the caches. -/
inductive ServiceStep where
  | insert (ns : Namespace) (user : UserId) (name : String) (value : Option String)
  | value (ns : Namespace) (user : UserId) (name : String)
  | defaultValue (ns : Namespace) (user : UserId) (name : String)
  | tag (ns : Namespace) (user : UserId) (name : String)
  | bump (ns : Namespace)
  | generation (ns : Namespace)
  | setGeneration (ns : Namespace) (value : Generation)
  | setFault (fault : Fault) (on : Bool)
  | hasFault (fault : Fault)
  | setTrackerIndex (index : Option Int32)
  | failReads (on : Bool)
  | failClose (on : Bool)
  /-- Close a handle by its place among those that the service handed out. -/
  | closeHandle (place : Nat)
  | countReads
  | listRequests
  | auditHandles
  /-- Call the service directly. -/
  | call {verb : Verb} (ns : Namespace) (call : Call verb)

/-- What a scenario asks of a client as a whole, or does to it. -/
inductive ClientStep where
  | clear
  | user
  | stats

/-- A step of a scenario. -/
inductive Step where
  /-- An action on the caches. -/
  | cache (action : Action Answer)
  /-- An action that needs a client. -/
  | client (action : Action Answer)
  | wholeClient (step : ClientStep)
  /-- Give up the tracker and the values of a cache. -/
  | clear (ns : Namespace)
  /-- Have a cache describe itself. -/
  | describe (ns : Namespace)
  | service (step : ServiceStep)
  /-- Put new and empty caches in the place of the old ones, unless their configuration is
  refused. -/
  | restart (config : Config)
  /-- Queue a hook. -/
  | hook (verb : Verb) (before after : List Step) (reply : Option (Reply verb))

/-- What a queued hook does to a call of its verb. -/
structure Script (verb : Verb) where
  /-- The steps to run before the call is answered. -/
  before : List Step
  /-- The steps to run between the answer and the cache's next turn. -/
  after : List Step
  /-- The reply given in place of the service's. -/
  reply : Option (Reply verb)

/-- A queued hook. -/
structure Hook where
  verb : Verb
  script : Script verb

/-! ## Weights

The weight of a step bounds the number of transitions it can lead to, its hooks' steps included.
-/

mutual

/-- The weight of a step. -/
def Step.weight : Step → Nat
  | .hook _ before after _ => 5 + Step.totalWeight before + Step.totalWeight after
  | _ => 1

/-- The weight of several steps. -/
def Step.totalWeight : List Step → Nat
  | [] => 0
  | step :: rest => step.weight + Step.totalWeight rest

end

/-- The weight of a script. -/
def Script.weight {verb : Verb} (script : Script verb) : Nat :=
  4 + Step.totalWeight script.before + Step.totalWeight script.after

/-- The weight of queued hooks. -/
def Hook.totalWeight : List Hook → Nat
  | [] => 0
  | hook :: rest => hook.script.weight + Hook.totalWeight rest

namespace Hook

/-- The first script queued for a verb, and the queue without it. -/
def take? (verb : Verb) : List Hook → Option (Script verb × List Hook)
  | [] => none
  | hook :: rest =>
    if h : hook.verb = verb then some (h ▸ hook.script, rest)
    else (take? verb rest).map fun (script, others) ↦ (script, hook :: others)

/-- Taking a script from the queue takes its weight and no more. -/
theorem totalWeight_of_take? {verb : Verb} {hooks rest : List Hook} {script : Script verb}
    (h : take? verb hooks = some (script, rest)) :
    totalWeight hooks = script.weight + totalWeight rest := by
  induction hooks generalizing rest with
  | nil => simp [take?] at h
  | cons hook others ih =>
    rw [take?] at h
    split at h
    · rename_i same
      subst same
      obtain ⟨rfl, rfl⟩ : hook.script = script ∧ others = rest := by simpa using h
      rfl
    · obtain ⟨⟨found, left⟩, hfound, heq⟩ := Option.map_eq_some_iff.1 h
      obtain ⟨rfl, rfl⟩ : found = script ∧ hook :: left = rest := by simpa using heq
      have := ih hfound
      simp only [totalWeight]
      omega

end Hook

end SettingsCache.Scenario
