import SettingsCache.Config.Basic

/-!
# Configuration from environment variables

Each switch has a variable. A variable counts only if it holds exactly `true` or `false`; one that
is unset, holds anything else or is not text leaves its switch on.
-/

namespace SettingsCache.Config

/-- The variable of a switch. -/
def Switch.variableName : Switch → String
  | .caching => "ALMANAC_CACHE_ENABLED"
  | .tracking => "ALMANAC_CACHE_TRACK_GENERATION"
  | .fastPath => "ALMANAC_CACHE_FAST_PATH"
  | .fallback => "ALMANAC_CACHE_FALLBACK_QUERY"

/-- Read a truth value that is written exactly. -/
def ofBoolText? (text : String) : Option Bool :=
  if text = "true" then some true else if text = "false" then some false else none

/-- The position that a variable's bytes give its switch, if they are text and a truth value. -/
def switchOfBytes? (bytes : ByteArray) : Option Bool := (String.fromUTF8? bytes).bind ofBoolText?

/-- The configuration that the environment describes; it is not validated. -/
def ofEnvironment (environment : String → Option ByteArray) : Config :=
  Switch.all.foldl
    (fun c switch ↦
      match (environment switch.variableName).bind switchOfBytes? with
      | some on => c.set switch on
      | none => c)
    {}

end SettingsCache.Config
