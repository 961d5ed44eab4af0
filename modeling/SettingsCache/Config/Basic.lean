import SettingsCache.Error

/-!
# Configuration

Four switches say what a cache may do. They are independent, but two combinations make no sense
and are refused by `validate`: no way to read at all, and tracking without caching.
-/

namespace SettingsCache

/-- The switches of a cache; all are on unless told otherwise. -/
structure Config where
  /-- Keep values of the process's user between changes. -/
  caching : Bool := true
  /-- Ask the service for a generation tracker. -/
  tracking : Bool := true
  /-- Read through the fast get and list calls. -/
  fastPath : Bool := true
  /-- Query the backing collection when the fast path gave no answer. -/
  fallback : Bool := true
  deriving DecidableEq

namespace Config

/-- One of the switches. -/
inductive Switch where
  | caching
  | tracking
  | fastPath
  | fallback
  deriving DecidableEq

namespace Switch

/-- Every switch. -/
def all : List Switch := [.caching, .tracking, .fastPath, .fallback]

/-- The name of a switch in documents, descriptions and errors. -/
def name : Switch → String
  | .caching => "caching_enabled"
  | .tracking => "track_generation"
  | .fastPath => "fast_path_enabled"
  | .fallback => "fallback_query_enabled"

/-- The switch of an exactly written name. -/
def ofName? (name : String) : Option Switch := all.find? fun switch ↦ switch.name == name

end Switch

/-- The position of one switch. -/
def get (c : Config) : Switch → Bool
  | .caching => c.caching
  | .tracking => c.tracking
  | .fastPath => c.fastPath
  | .fallback => c.fallback

/-- Put one switch into a position. -/
def set (c : Config) (switch : Switch) (on : Bool) : Config :=
  match switch with
  | .caching => { c with caching := on }
  | .tracking => { c with tracking := on }
  | .fastPath => { c with fastPath := on }
  | .fallback => { c with fallback := on }

/-- The configuration in which reads only query the backing collection. -/
def fallbackOnly : Config := { fastPath := false }

/-- Whether a cache should ask for a generation tracker at all. -/
def wantsTracker (c : Config) : Bool := c.caching && c.tracking

/-- A truth value as documents and errors write it. -/
def boolText (b : Bool) : String := if b then "true" else "false"

/-- Refuse a configuration with no way to read, or with tracking but no caching. -/
def validate (c : Config) : Except ConfigError Unit :=
  if !c.fastPath && !c.fallback then
    .error (.invalidValue Switch.fallback.name (boolText c.fallback)
      "at least one of fast_path_enabled and fallback_query_enabled must be set")
  else if c.tracking && !c.caching then
    .error (.incompatible Switch.tracking.name (Switch.caching.name ++ " = false"))
  else
    .ok ()

/-- A configuration that passed validation, or the reason why it did not. -/
def validated (c : Config) : Except ConfigError Config := c.validate.map fun _ ↦ c

/-- A configuration as shown inside a description. -/
def describe (c : Config) : String :=
  let fields := Switch.all.map fun switch ↦ switch.name ++ ": " ++ boolText (c.get switch)
  "CacheConfig \x7b " ++ ", ".intercalate fields ++ " \x7d"

end Config

end SettingsCache
