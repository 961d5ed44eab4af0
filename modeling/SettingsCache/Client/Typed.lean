import SettingsCache.Client.Basic
import SettingsCache.Numeral.Decimal
import SettingsCache.Numeral.Integer

/-!
# Numbers and truth values in settings

Settings are texts. Integers and floats are kept in decimal, and a truth value as the integer zero
or one. A read with a default takes the default for whatever is not a number; a strict read tells
why there is none.
-/

namespace SettingsCache

open Numeral

/-- A kind of number that settings can hold. -/
class SettingNumber (α : Type) where
  /-- The number of a text, or the wording of why it is none. -/
  read : String → Except String α
  /-- The text of a number. -/
  write : α → String

instance : SettingNumber Int32 where
  read text := (readInt32 text).mapError IntegerFault.message
  write n := writeInteger n.toInt

instance : SettingNumber Int64 where
  read text := (readInt64 text).mapError IntegerFault.message
  write n := writeInteger n.toInt

instance : SettingNumber Binary32 where
  read text := (Binary32.read text).mapError FloatFault.message
  write := Binary32.write

namespace Client

variable {α : Type} [SettingNumber α]

/-- Read a number; the default stands for anything that is none. -/
def number (ns : Namespace) (name : String) (user : UserId) (default : α) : Action α :=
  (text ns name user).map fun text ↦
    match text.map SettingNumber.read with
    | some (.ok n) => n
    | _ => default

/-- The number of a reading, or why there is none. -/
def numberOf (ns : Namespace) (name : String) (reading : Reading) : Except Error α :=
  match reading.value with
  | none => .error (.setting (.notFound ns name))
  | some text => (SettingNumber.read text).mapError fun reason ↦
      .setting (.invalidNumber name text reason)

/-- Read a number, or tell why there is none. -/
def strictNumber (ns : Namespace) (name : String) (user : UserId) : Action (Except Error α) :=
  (lookup ns name user).map fun found ↦ found.bind (numberOf ns name)

/-- Write a number. -/
def putNumber (ns : Namespace) (name : String) (n : α) (user : UserId) : Action Bool :=
  putText ns name (some (SettingNumber.write n)) user

/-- The integer that stands for a truth value. -/
def flagNumber (b : Bool) : Int32 := if b then 1 else 0

/-- Read a truth value: any integer but zero is true. -/
def flag (ns : Namespace) (name : String) (user : UserId) (default : Bool) : Action Bool :=
  (number ns name user (flagNumber default)).map fun n ↦ n != 0

/-- Write a truth value. -/
def putFlag (ns : Namespace) (name : String) (b : Bool) (user : UserId) : Action Bool :=
  putNumber ns name (flagNumber b) user

end Client

end SettingsCache
