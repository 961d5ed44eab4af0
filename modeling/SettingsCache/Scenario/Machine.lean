import SettingsCache.Scenario.Stage

/-!
# How a scenario runs

Operations overlap only where a hook is queued for the verb of a remote call: the caller waits in
a stack of frames while the hook's steps run, and these may call and wait in turn. A transition
takes the uppermost frame off the stack and puts the frames in its place that it leads to.

Each transition lowers the weight of the hooks and frames that are left, by `load_next_lt`, so that
every run comes to an end.
-/

namespace SettingsCache.Scenario

/-- When a hook's steps run. -/
inductive Phase where
  /-- Before the call is answered. -/
  | before
  /-- After the call is answered. -/
  | after
  deriving DecidableEq

/-- Where a step stands. -/
inductive Origin where
  /-- In the scenario itself. -/
  | scenario
  /-- In a hook on a verb. -/
  | hook (verb : Verb) (phase : Phase)
  deriving DecidableEq

/-- What a step of a hook answered. -/
structure Aside where
  verb : Verb
  phase : Phase
  answer : Answer

/-- An action on its way. -/
structure Flight (kind : Kind) where
  /-- The number of the client whose cache acts. -/
  client : Nat
  ns : Namespace
  origin : Origin
  finish : kind.Answer → Answer

/-- What is left to do at one level of the stack. -/
inductive Frame where
  /-- Run steps. -/
  | todo (origin : Origin) (steps : List Step)
  /-- Answer a call, then run the last steps of its hook. -/
  | asked {verb : Verb} {kind : Kind} (flight : Flight kind) (call : Call verb)
      (pending : Pending verb kind) (reply : Option (Reply verb)) (after : List Step)
  /-- Give the outcome of a call to the cache that made it. -/
  | answered {verb : Verb} {kind : Kind} (flight : Flight kind) (pending : Pending verb kind)
      (outcome : verb.Outcome)

/-- A client and the number of its actions on their way. -/
structure Tenant where
  client : Client
  flights : Nat := 0

/-- The state of a scenario. -/
structure State where
  stage : Stage
  /-- Whether there are only bare caches, which are not validated. -/
  bare : Bool
  /-- The clients that were replaced, oldest first. They act on until their actions are done. -/
  former : Array Tenant := #[]
  /-- The client in place. -/
  current : Tenant
  /-- The queued hooks, first come first. -/
  hooks : List Hook := []
  /-- What the last step of the scenario itself answered. -/
  answer : Answer := .nothing
  /-- What steps of hooks have answered during it. -/
  asides : Array Aside := #[]

namespace State

/-! ## Clients -/

/-- The client in place. -/
def client (s : State) : Client := s.current.client

/-- The client of a number, replaced or not. -/
def tenant (s : State) (number : Nat) : Tenant := s.former.getD number s.current

/-- Replace the client of a number. -/
def setTenant (s : State) (number : Nat) (tenant : Tenant) : State :=
  if number < s.former.size then { s with former := s.former.setIfInBounds number tenant }
  else { s with current := tenant }

/-- Let a cache act on the block. -/
def access (s : State) (accesses : List Access) : State :=
  { s with stage := Provider.accessAll s.stage accesses }

/-- Bring a turn of a cache of a client into effect. -/
def settle {α : Type} (s : State) (number : Nat) (turn : Turn α) : State :=
  let tenant := s.tenant number
  let client := tenant.client.setCache turn.cache.ns turn.cache
  (s.setTenant number { tenant with client := client }).access turn.accesses

/-- Count an action of the client in place. -/
def takeOff (s : State) : State :=
  { s with current := { s.current with flights := s.current.flights + 1 } }

/-- Count an action as done. The last action of a client that was replaced ends the client. -/
def land (s : State) (number : Nat) : State :=
  let tenant := s.tenant number
  let tenant := { tenant with flights := tenant.flights - 1 }
  let s := s.setTenant number tenant
  if number < s.former.size && tenant.flights == 0 then s.access tenant.client.release else s

/-- Put a client in the place of the current one, which ends unless it has actions on their
way. -/
def replace (s : State) (client : Client) : State :=
  let old := s.current
  let s := { s with former := s.former.push old, current := { client := client } }
  if old.flights == 0 then s.access old.client.release else s

/-! ## Steps -/

/-- Note what a step answered. -/
def conclude (s : State) (origin : Origin) (answer : Answer) : State :=
  match origin with
  | .scenario => { s with answer := answer }
  | .hook verb phase => { s with asides := s.asides.push ⟨verb, phase, answer⟩ }

/-- Ask something of the client as a whole. -/
def runWhole (s : State) : ClientStep → Answer × State
  | .clear =>
    let (client, accesses) := s.client.clear
    (.nothing, { s with current := { s.current with client := client } }.access accesses)
  | .user => (.integer s.client.user.id.toNat, s)
  | .stats => (.stats s.client.stats, s)

/-- Build new caches for the process's user. -/
def restart (s : State) (config : Config) : Answer × State :=
  let user := s.client.user
  if s.bare then (.nothing, s.replace (.unchecked user config))
  else
    match Client.create user config with
    | .ok client => (.nothing, s.replace client)
    | .error e => (.failure e, s)

/-- The script for a call, and the state without its hook. -/
def takeScript? (s : State) (verb : Verb) : Option (Script verb × State) :=
  if s.stage.admits verb then
    (Hook.take? verb s.hooks).map fun (script, rest) ↦ (script, { s with hooks := rest })
  else none

/-- Go on with an action until it is done or meets a hook. -/
def advance (s : State) {kind : Kind} (flight : Flight kind) :
    Progress kind → State × List Frame
  | .done answer => ((s.land flight.client).conclude flight.origin (flight.finish answer), [])
  | @Progress.calling _ verb call pending =>
    match s.takeScript? verb with
    | some (script, s) =>
      (s, [.todo (.hook verb .before) script.before,
        .asked flight call pending script.reply script.after])
    | none =>
      let (outcome, stage) := Provider.serve s.stage flight.ns call
      let s := { s with stage := stage }
      let turn := ((s.tenant flight.client).client.cache flight.ns).resume pending outcome
      (s.settle flight.client turn).advance flight turn.result
termination_by progress => progress.callsLeft
decreasing_by exact Cache.callsLeft_resume_lt ..

/-- Begin an action. While no hook is queued it is carried out at once. -/
def act (s : State) (origin : Origin) (action : Action Answer) : State × List Frame :=
  if s.hooks.isEmpty then
    let performed := s.client.perform s.stage action
    let s := { s with
      stage := performed.provider, current := { s.current with client := performed.state } }
    (s.conclude origin performed.answer, [])
  else
    let number := s.former.size
    let turn := (s.client.cache action.ns).start (Provider.view s.stage) action.operation
    let flight : Flight action.kind := ⟨number, action.ns, origin, action.finish⟩
    (s.takeOff.settle number turn).advance flight turn.result

/-- Run one step. -/
def run (s : State) (origin : Origin) : Step → State × List Frame
  | .cache action => s.act origin action
  | .client action =>
    if s.bare then (s.conclude origin .noClient, []) else s.act origin action
  | .wholeClient step =>
    if s.bare then (s.conclude origin .noClient, [])
    else
      let (answer, s) := s.runWhole step
      (s.conclude origin answer, [])
  | .clear ns =>
    ((s.settle s.former.size (s.client.cache ns).clear).conclude origin .nothing, [])
  | .describe ns => (s.conclude origin (.cache (s.client.cache ns)), [])
  | .service step =>
    let (answer, service) := step.run s.stage.service
    ({ s with stage := { s.stage with service := service } }.conclude origin answer, [])
  | .restart config =>
    let (answer, s) := s.restart config
    (s.conclude origin answer, [])
  | .hook verb before after reply =>
    let hook : Hook := ⟨verb, before, after, reply⟩
    ({ s with hooks := s.hooks ++ [hook] }.conclude origin .nothing, [])

/-- The transition of a frame: the state, and the frames to put in its place. -/
def next (s : State) : Frame → State × List Frame
  | .todo _ [] => (s, [])
  | .todo origin (step :: rest) =>
    let (s, frames) := s.run origin step
    (s, frames ++ [.todo origin rest])
  | @Frame.asked verb _ flight call pending reply after =>
    let (outcome, stage) := s.stage.answer flight.ns call reply
    ({ s with stage := stage },
      [.todo (.hook verb .after) after, .answered flight pending outcome])
  | .answered flight pending outcome =>
    let turn := ((s.tenant flight.client).client.cache flight.ns).resume pending outcome
    (s.settle flight.client turn).advance flight turn.result

end State

/-! ## Every run ends -/

/-- The weight of a frame. -/
def Frame.weight : Frame → Nat
  | .todo _ steps => 1 + Step.totalWeight steps
  | .asked _ _ _ _ after => 3 + Step.totalWeight after
  | .answered _ _ _ => 1

/-- The weight of a stack. -/
def Frame.totalWeight : List Frame → Nat
  | [] => 0
  | frame :: rest => frame.weight + Frame.totalWeight rest

theorem Frame.totalWeight_append (frames others : List Frame) :
    totalWeight (frames ++ others) = totalWeight frames + totalWeight others := by
  induction frames with
  | nil => simp [totalWeight]
  | cons frame rest ih => simp [totalWeight, ih, Nat.add_assoc]

theorem Hook.totalWeight_append (hooks others : List Hook) :
    totalWeight (hooks ++ others) = totalWeight hooks + totalWeight others := by
  induction hooks with
  | nil => simp [totalWeight]
  | cons hook rest ih => simp [totalWeight, ih, Nat.add_assoc]

namespace State

@[simp] theorem hooks_access (s : State) (accesses : List Access) :
    (s.access accesses).hooks = s.hooks := rfl

@[simp] theorem hooks_setTenant (s : State) (number : Nat) (tenant : Tenant) :
    (s.setTenant number tenant).hooks = s.hooks := by
  unfold setTenant
  split <;> rfl

@[simp] theorem hooks_settle {α : Type} (s : State) (number : Nat) (turn : Turn α) :
    (s.settle number turn).hooks = s.hooks := by
  simp [settle]

@[simp] theorem hooks_land (s : State) (number : Nat) : (s.land number).hooks = s.hooks := by
  dsimp only [land]
  split <;> simp

@[simp] theorem hooks_replace (s : State) (client : Client) :
    (s.replace client).hooks = s.hooks := by
  dsimp only [replace]
  split <;> rfl

@[simp] theorem hooks_conclude (s : State) (origin : Origin) (answer : Answer) :
    (s.conclude origin answer).hooks = s.hooks := by
  cases origin <;> rfl

@[simp] theorem hooks_runWhole (s : State) (step : ClientStep) :
    (s.runWhole step).2.hooks = s.hooks := by
  cases step <;> rfl

@[simp] theorem hooks_restart (s : State) (config : Config) :
    (s.restart config).2.hooks = s.hooks := by
  dsimp only [restart]
  split
  · simp
  · split <;> simp

/-- The weight of the hooks and of some frames. -/
def load (s : State) (frames : List Frame) : Nat :=
  Hook.totalWeight s.hooks + Frame.totalWeight frames

/-- Going on with an action puts up no more frames than it takes hooks. -/
theorem load_advance_le (s : State) {kind : Kind} (flight : Flight kind)
    (progress : Progress kind) :
    (s.advance flight progress).1.load (s.advance flight progress).2 ≤ s.load [] := by
  fun_induction advance s flight progress with
  | case1 => simp [load]
  | case2 s verb call pending script left h =>
    unfold takeScript? at h
    split at h
    · obtain ⟨⟨found, rest⟩, hfound, heq⟩ := Option.map_eq_some_iff.1 h
      obtain ⟨rfl, rfl⟩ := by simpa using heq
      have := Hook.totalWeight_of_take? hfound
      simp only [load, Frame.totalWeight, Frame.weight, Script.weight] at this ⊢
      omega
    · simp at h
  | case3 s verb call pending h outcome stage hserve changed turn ih =>
    simpa [load, changed] using ih

theorem load_act_le (s : State) (origin : Origin) (action : Action Answer) :
    (s.act origin action).1.load (s.act origin action).2 ≤ s.load [] := by
  dsimp only [act]
  split
  · simp [load]
  · exact Nat.le_trans (load_advance_le ..) (by simp [load, takeOff])

/-- Running a step puts up no more than the step's weight. -/
theorem load_run_le (s : State) (origin : Origin) (step : Step) :
    (s.run origin step).1.load (s.run origin step).2 + 1 ≤ s.load [] + step.weight := by
  have quiet {s' : State} (h : s'.hooks = s.hooks) : s'.load [] + 1 ≤ s.load [] + 1 := by
    simp [load, h]
  cases step with
  | cache action => exact Nat.succ_le_succ (load_act_le ..)
  | client action =>
    dsimp only [run]
    split
    · exact quiet (hooks_conclude ..)
    · exact Nat.succ_le_succ (load_act_le ..)
  | wholeClient step =>
    dsimp only [run]
    split
    · exact quiet (hooks_conclude ..)
    · exact quiet (by simp)
  | clear ns => exact quiet (by simp [run])
  | describe ns => exact quiet (hooks_conclude ..)
  | service step => exact quiet (hooks_conclude ..)
  | restart config => exact quiet (by simp [run])
  | hook verb before after reply =>
    simp only [run, load, hooks_conclude, Hook.totalWeight_append, Hook.totalWeight,
      Frame.totalWeight, Script.weight, Step.weight]
    omega

/-- Every transition lowers the weight of what is left. -/
theorem load_next_lt (s : State) (frame : Frame) :
    (s.next frame).1.load (s.next frame).2 < s.load [frame] := by
  cases frame with
  | todo origin steps =>
    cases steps with
    | nil => simp [next, load, Frame.totalWeight, Frame.weight, Step.totalWeight]
    | cons step rest =>
      have := load_run_le s origin step
      simp only [next, load, Frame.totalWeight_append, Frame.totalWeight, Frame.weight,
        Step.totalWeight] at this ⊢
      omega
  | asked flight call pending reply after =>
    simp only [next, load, Frame.totalWeight, Frame.weight]
    omega
  | answered flight pending outcome =>
    refine Nat.lt_of_le_of_lt (load_advance_le ..) ?_
    simp only [load, hooks_settle, Frame.totalWeight, Frame.weight]
    omega

/-- Run a stack of frames to its end. -/
def finish (s : State) : List Frame → State
  | [] => s
  | frame :: rest => (s.next frame).1.finish ((s.next frame).2 ++ rest)
termination_by frames => s.load frames
decreasing_by
  have := load_next_lt s frame
  simp only [load, Frame.totalWeight_append, Frame.totalWeight] at this ⊢
  omega

end State

end SettingsCache.Scenario
