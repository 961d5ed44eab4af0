import SettingsCache.Namespace
import SettingsCache.ResetMode
import SettingsCache.User

/-!
# Identities in documents

How namespaces, reset modes and users are written in a structured document. The members of an
enumeration are written by name, and a name is also read when it is the only key of an object and
the key's value is null. Users are written as bare numbers.
-/

namespace SettingsCache

/-- A value of a document, as far as an identity can be read from it. -/
inductive Datum where
  | text (text : String)
  | integer (n : Int)
  /-- An object whose only key has the value null. -/
  | lone (key : String)
  /-- Any other value. -/
  | other
  deriving DecidableEq

/-- The name of a member of an enumeration. -/
def Datum.name? : Datum → Option String
  | .text name | .lone name => some name
  | .integer _ | .other => none

/-- Write a namespace: its table name. -/
def Namespace.toDatum (ns : Namespace) : Datum := .text ns.tableName

/-- Read a namespace. Unlike `Namespace.parse`, the case must be as written. -/
def Namespace.ofDatum? (datum : Datum) : Option Namespace := datum.name?.bind ofTableName?

/-- Write a reset mode: its name. -/
def ResetMode.toDatum (mode : ResetMode) : Datum := .text mode.name

/-- Read a reset mode. -/
def ResetMode.ofDatum? (datum : Datum) : Option ResetMode := datum.name?.bind ofName?

/-- Write a user: the bare number. -/
def UserId.toDatum (user : UserId) : Datum := .integer user.id.toNat

/-- Read a user: a whole number in range. -/
def UserId.ofDatum? : Datum → Option UserId
  | .integer n => ofInt? n
  | _ => none

theorem Namespace.ofDatum?_toDatum (ns : Namespace) : ofDatum? ns.toDatum = some ns := by
  cases ns <;> decide

theorem ResetMode.ofDatum?_toDatum (mode : ResetMode) : ofDatum? mode.toDatum = some mode := by
  cases mode <;> decide

theorem UserId.ofDatum?_toDatum (user : UserId) : ofDatum? user.toDatum = some user := by
  have h : user.id.toNat < 4294967296 := user.id.toNat_lt_size
  have range : (user.id.toNat : Int) < 4294967296 := by omega
  simp [toDatum, ofDatum?, ofInt?, range]

end SettingsCache
