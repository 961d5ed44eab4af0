import SettingsCache.Scenario.Step

/-!
# The stage of a scenario

The service as the caches of a scenario meet it: it may refuse the verbs that a service need not
implement, and it opens handles for scripted replies next to those that the service hands out.
-/

namespace SettingsCache.Scenario

/-- The service and what a scenario puts in front of it. -/
structure Stage where
  service : Service
  /-- Whether only the required verbs are answered. -/
  minimal : Bool := false
  /-- The handles opened for scripted replies, oldest first. -/
  scripted : Array Handle := #[]

namespace Stage

/-- Whether calls of a verb are answered at all. -/
def admits (s : Stage) (verb : Verb) : Bool := verb.isRequired || !s.minimal

instance : Provider Stage where
  serve {verb} s ns call :=
    if s.admits verb then
      let (outcome, service) := s.service.serve ns call
      (outcome, { s with service := service })
    else
      (.error (.unsupported (ns.method verb)), s)
  view s := Provider.view s.service
  access s a := { s with service := s.service.access a }

/-- The hand-over of an offer, on a handle of its own. -/
def accept (s : Stage) : Option Offer → Option HandOver × Stage
  | none => (none, s)
  | some offer =>
    let (handle, service) := s.service.openHandle
    let handOver : HandOver :=
      { handle := handle, length := service.block.slots.size
        index := offer.index, generation := offer.generation }
    (some handOver, { s with service := service, scripted := s.scripted.push handle })

/-- Give a scripted reply. -/
def play (s : Stage) {verb : Verb} : Reply verb → verb.Outcome × Stage
  | .failure e => (.error e, s)
  | .absent => (.ok none, s)
  | .value value offer =>
    let (handOver, s) := s.accept offer
    (.ok (some ⟨value, handOver⟩), s)
  | .row row => (.ok row, s)
  | .values values offer =>
    let (handOver, s) := s.accept offer
    (.ok ⟨values, handOver⟩, s)
  | .written => (.ok (), s)
  | .restored => (.ok (), s)

/-- Answer a call by the scripted reply, or else by the service. -/
def answer (s : Stage) (ns : Namespace) {verb : Verb} (call : Call verb) :
    Option (Reply verb) → verb.Outcome × Stage
  | some reply => s.play reply
  | none => Provider.serve s ns call

/-- Whether each handle opened for a scripted reply is closed, oldest first. -/
def closedScripted (s : Stage) : List Bool := s.scripted.toList.map s.service.block.isClosed

end Stage

/-- Do a service step: its answer, and the service afterwards. -/
def ServiceStep.run (s : Service) : ServiceStep → Answer × Service
  | .insert ns user name written => (.nothing, s.insert ns user name written)
  | .value ns user name => (.text (s.value ns user name), s)
  | .defaultValue ns user name => (.text (s.defaultValue ns user name), s)
  | .tag ns user name => (.text (s.tag ns user name), s)
  | .bump ns =>
    let s := s.bump ns
    (.integer (s.generation ns).toInt, s)
  | .generation ns => (.integer (s.generation ns).toInt, s)
  | .setGeneration ns n => (.nothing, s.setGeneration ns n)
  | .setFault fault on => (.nothing, s.setFault fault on)
  | .hasFault fault => (.flag (s.hasFault fault), s)
  | .setTrackerIndex index => (.nothing, { s with trackerIndex := index })
  | .failReads on => (.nothing, { s with block := { s.block with failReads := on } })
  | .failClose on => (.nothing, { s with block := { s.block with failClose := on } })
  | .closeHandle place =>
    match s.handles[place]? with
    | some handle => (.closed s.block.closeAnswer, s.access (.close handle))
    | none => (.nothing, s)
  | .countReads => (.integer s.block.reads, s)
  | .listRequests => (.requests s.getRequests.toList, s)
  | .auditHandles => (.audit s.auditHandles, s)
  | @call verb ns made =>
    let (outcome, s) := s.serve ns made
    (.outcome verb outcome, s)

end SettingsCache.Scenario
