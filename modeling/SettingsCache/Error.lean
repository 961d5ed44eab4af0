import SettingsCache.Namespace
import SettingsCache.Text.Quoted

/-!
# Errors

What can go wrong, by cause, and the wording of each cause. `Error` gathers the four families and
puts the family's name in front of the wording.
-/

namespace SettingsCache

/-- A remote call that gave no answer. -/
inductive RemoteError where
  /-- The call did not reach the service or the service failed. -/
  | communication (method reason : String)
  /-- The service does not know the method. -/
  | unsupported (method : String)
  deriving DecidableEq

/-- The wording of a remote error. -/
def RemoteError.message : RemoteError → String
  | .communication method reason => "Remote call " ++ method ++ " failed: " ++ reason
  | .unsupported method => "Remote method not supported: " ++ method

/-- A shared array that could not be made, read or written. -/
inductive ArrayError where
  /-- The handle has been closed. -/
  | closed
  /-- The index is past the last slot. -/
  | outOfBounds (index length : Nat)
  /-- The array's size makes no sense. -/
  | invalidLayout (reason : String)
  /-- The storage behind the array failed. -/
  | io (reason : String)
  deriving DecidableEq

/-- The wording of an array error. -/
def ArrayError.message : ArrayError → String
  | .closed => "Shared array is closed"
  | .outOfBounds index length =>
    "Index " ++ toString index ++ " out of bounds for shared array of length " ++ toString length
  | .invalidLayout reason => "Invalid shared array layout: " ++ reason
  | .io reason => "Shared array I/O error: " ++ reason

/-- A configuration that cannot be used. -/
inductive ConfigError where
  /-- One option has a value it must not have. -/
  | invalidValue (field value reason : String)
  /-- Two options exclude each other. -/
  | incompatible (first second : String)
  /-- The configuration file could not be read. -/
  | unreadable (reason : String)
  /-- The configuration document is not well formed. -/
  | malformed (reason : String)
  deriving DecidableEq

/-- The wording of a configuration error. -/
def ConfigError.message : ConfigError → String
  | .invalidValue field value reason =>
    "Invalid value for " ++ field ++ ": " ++ value ++ " - " ++ reason
  | .incompatible first second => "Incompatible options: " ++ first ++ " and " ++ second
  | .unreadable reason => "Failed to read config file: " ++ reason
  | .malformed reason => "Failed to parse config TOML: " ++ reason

/-- A typed read that found no usable value. -/
inductive SettingError where
  /-- The setting has no value. -/
  | notFound (ns : Namespace) (name : String)
  /-- The setting's text is not a number of the wanted kind. -/
  | invalidNumber (name value reason : String)
  deriving DecidableEq

/-- The wording of a setting error. -/
def SettingError.message : SettingError → String
  | .notFound ns name => "Setting not found: " ++ ns.tableName ++ "/" ++ name
  | .invalidNumber name value reason =>
    "Setting " ++ name ++ " has non-numeric value " ++ Text.quoted value ++ ": " ++ reason

/-- Any error of the settings library. -/
inductive Error where
  | remote (error : RemoteError)
  | array (error : ArrayError)
  | config (error : ConfigError)
  | setting (error : SettingError)
  deriving DecidableEq

namespace Error

/-- The wording of the cause alone. -/
def cause : Error → String
  | .remote e => e.message
  | .array e => e.message
  | .config e => e.message
  | .setting e => e.message

/-- The wording of an error: its family, then its cause. -/
def message (e : Error) : String :=
  let family :=
    match e with
    | .remote _ => "Remote error: "
    | .array _ => "Shared memory error: "
    | .config _ => "Config error: "
    | .setting _ => "Setting error: "
  family ++ e.cause

end Error

end SettingsCache
