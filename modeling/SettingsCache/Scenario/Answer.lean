import SettingsCache.Client.Typed

/-!
# Answers of a scenario's steps

What a step of a scenario can answer, as the step's caller sees it.
-/

namespace SettingsCache.Scenario

open Numeral

/-- What a step answers. -/
inductive Answer where
  /-- Nothing. -/
  | nothing
  | text (text : Option String)
  | flag (b : Bool)
  | integer (n : Int)
  | float (x : Binary32)
  | reading (reading : Reading)
  | texts (texts : NameMap String)
  /-- The value of a step that might have failed. -/
  | success (answer : Answer)
  /-- The failure of such a step. -/
  | failure (e : Error)
  /-- What closing a handle answered. -/
  | closed (outcome : Except ArrayError Unit)
  /-- What a direct call of the service answered. -/
  | outcome (verb : Verb) (outcome : verb.Outcome)
  /-- Whether all handles but the newest are closed. -/
  | audit (result : Except Service.HandleFault Unit)
  /-- What a cache says of itself. -/
  | cache (cache : Cache)
  | stats (stats : List (Namespace × Stats))
  /-- The fast reads that the service was asked for. -/
  | requests (requests : List (Namespace × GetRequest))
  /-- There are only bare caches and no client to ask. -/
  | noClient

namespace Answer

/-- A value that might have failed, shown as such. -/
def attempt {α : Type} (shown : α → Answer) : Except Error α → Answer
  | .ok a => .success (shown a)
  | .error e => .failure e

/-- A reading, or why there is none. -/
def ofReading : Except Error Reading → Answer
  | .ok r => .reading r
  | .error e => .failure e

end Answer

end SettingsCache.Scenario
