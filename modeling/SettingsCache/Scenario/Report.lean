import SettingsCache.Scenario.Machine

/-!
# Scenarios and their reports

A scenario is a process with its caches, a service, and the scenes played before them. Each scene
is one step, and is reported with what can be seen after it. The ending says what is left once the
last scene has been played and the process has ended.
-/

namespace SettingsCache

/-- A step, and the namespace whose cache is looked at after it. -/
structure Scenario.Scene where
  watched : Namespace
  step : Scenario.Step

/-- A scripted run of a process against a service. -/
structure Scenario where
  /-- The user the process runs as. -/
  user : UserId
  service : Service
  config : Config
  /-- Whether the caches are used without a client, and so without validation. -/
  bare : Bool
  /-- Whether the service answers only the verbs that every service implements. -/
  minimal : Bool
  scenes : List Scenario.Scene

namespace Scenario

/-- What can be seen after a scene. -/
structure Report where
  answer : Answer
  /-- The cache looked at. -/
  cache : Cache
  calls : CallCounts
  /-- Whether each handle is closed that the service handed out, oldest first. -/
  handedOut : List Bool
  /-- Whether each handle is closed that was opened for a scripted reply, oldest first. -/
  scripted : List Bool
  /-- What steps of hooks answered during the scene, in the order of their completion. -/
  asides : List Aside

/-- What can be seen at the end. -/
structure Ending where
  /-- The caches in table order. -/
  caches : List Cache
  /-- The counters of the namespaces in table order. -/
  generations : List Generation
  /-- The number of reads made of the generation block. -/
  reads : Nat
  /-- Whether each handle is closed that the service handed out, once the process has ended. -/
  handedOut : List Bool
  /-- Whether each handle is closed that was opened for a scripted reply, likewise. -/
  scripted : List Bool
  /-- The number of hooks still queued. -/
  hooksLeft : Nat

namespace State

/-- Play one scene. -/
def play (s : State) (scene : Scene) : Report × State :=
  let s := { s with answer := .nothing, asides := #[] }.finish [.todo .scenario [scene.step]]
  let report : Report :=
    { answer := s.answer
      cache := s.client.cache scene.watched
      calls := s.stage.service.calls
      handedOut := s.stage.service.closedHandles
      scripted := s.stage.closedScripted
      asides := s.asides.toList }
  (report, s)

/-- Play scenes one after the other. -/
def playAll (s : State) : List Scene → List Report × State
  | [] => ([], s)
  | scene :: rest =>
    let (report, s) := s.play scene
    let (reports, s) := s.playAll rest
    (report :: reports, s)

/-- End the process. -/
def ending (s : State) : Ending :=
  let ended := s.access s.client.release
  { caches := Namespace.all.map s.client.cache
    generations := Namespace.all.map s.stage.service.generation
    reads := s.stage.service.block.reads
    handedOut := ended.stage.service.closedHandles
    scripted := ended.stage.closedScripted
    hooksLeft := s.hooks.length }

end State

/-- The process's client, if its configuration is accepted. -/
def client (scenario : Scenario) : Except Error Client :=
  if scenario.bare then .ok (.unchecked scenario.user scenario.config)
  else Client.create scenario.user scenario.config

/-- Play a scenario: a report of each scene and the ending, or the refusal of the
configuration. -/
def run (scenario : Scenario) : Except Error (List Report × Ending) :=
  scenario.client.map fun client ↦
    let s : State :=
      { stage := { service := scenario.service, minimal := scenario.minimal }
        bare := scenario.bare
        current := { client := client } }
    let (reports, s) := s.playAll scenario.scenes
    (reports, s.ending)

end Scenario

end SettingsCache
