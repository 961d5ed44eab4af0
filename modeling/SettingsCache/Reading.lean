/-!
# Readings

The answer to a read of one setting, together with where it came from. A reading exists only if
some path answered, so that an unset setting can be told from one that could not be fetched.
-/

namespace SettingsCache

/-- The value of a generation counter. -/
abbrev Generation := Int32

/-- Where a reading came from. -/
inductive Source where
  /-- Local values, with no remote call. -/
  | cache
  /-- The fast get call. -/
  | fastPath
  /-- The fallback query. -/
  | fallback
  deriving DecidableEq

/-- The name of a source. -/
def Source.name : Source → String
  | .cache => "Cache"
  | .fastPath => "FastPath"
  | .fallback => "Fallback"

/-- What a read of one setting found. -/
structure Reading where
  /-- The setting's text, or none if it is unset. -/
  value : Option String
  /-- Where the answer came from. -/
  source : Source
  /-- The generation that the value is known to go with, if any. -/
  generation : Option Generation
  deriving DecidableEq

namespace Reading

/-- A reading served from local values that were checked at a generation. -/
def ofCache (value : Option String) (generation : Generation) : Reading :=
  ⟨value, .cache, some generation⟩

/-- Whether the setting has a value. -/
def isSet (r : Reading) : Bool := r.value.isSome

/-- Whether local values answered. -/
def isHit (r : Reading) : Bool := r.source == .cache

end Reading

end SettingsCache
