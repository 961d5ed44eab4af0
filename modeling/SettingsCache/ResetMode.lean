/-!
# Reset modes

How a reset to defaults treats the values of a table, and the code of each mode on the wire.
-/

namespace SettingsCache

/-- How a reset to defaults treats existing values. -/
inductive ResetMode where
  /-- Values written with the request's tag return to their defaults. -/
  | packageDefaults
  /-- Values set by untrusted writers return to their defaults. -/
  | untrustedDefaults
  /-- Values set by untrusted writers return to their defaults and lose their tags. -/
  | untrustedChanges
  /-- Every value returns to its trusted default. -/
  | trustedDefaults
  deriving DecidableEq

namespace ResetMode

/-- Every reset mode, in the order of the codes. -/
def all : List ResetMode :=
  [.packageDefaults, .untrustedDefaults, .untrustedChanges, .trustedDefaults]

/-- The code of a mode on the wire. -/
def code : ResetMode → Int32
  | .packageDefaults => 1
  | .untrustedDefaults => 2
  | .untrustedChanges => 3
  | .trustedDefaults => 4

/-- The mode of a wire code. -/
def ofCode? (code : Int32) : Option ResetMode := all.find? fun mode ↦ mode.code == code

/-- The name of a mode. -/
def name : ResetMode → String
  | .packageDefaults => "PackageDefaults"
  | .untrustedDefaults => "UntrustedDefaults"
  | .untrustedChanges => "UntrustedChanges"
  | .trustedDefaults => "TrustedDefaults"

/-- The mode of an exactly written name. -/
def ofName? (name : String) : Option ResetMode := all.find? fun mode ↦ mode.name == name

end ResetMode

end SettingsCache
