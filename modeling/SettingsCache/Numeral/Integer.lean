/-!
# Integers in decimal

An integer is written as an optional sign and at least one ASCII digit. It is read from the left,
so that the first character that is no digit and the first digit that takes the number out of
range are told apart by which comes first.
-/

namespace SettingsCache.Numeral

/-- Why a text is not an integer of a range. -/
inductive IntegerFault where
  /-- There is nothing to read. -/
  | empty
  /-- A character is no digit, or no digit follows the sign. -/
  | invalidDigit
  /-- The number is above the range. -/
  | tooLarge
  /-- The number is below the range. -/
  | tooSmall
  deriving DecidableEq

/-- The wording of an integer fault. -/
def IntegerFault.message : IntegerFault → String
  | .empty => "cannot parse integer from empty string"
  | .invalidDigit => "invalid digit found in string"
  | .tooLarge => "number too large to fit in target type"
  | .tooSmall => "number too small to fit in target type"

/-- The value of an ASCII digit. -/
def digit? (c : Char) : Option Nat := if c.isDigit then some (c.toNat - 48) else none

/-- The number that digits continue, as long as it stays within a bound. -/
def readMagnitude (bound : Nat) (overflow : IntegerFault) :
    Nat → List Char → Except IntegerFault Nat
  | n, [] => .ok n
  | n, c :: rest =>
    match digit? c with
    | none => .error .invalidDigit
    | some d =>
      if bound < 10 * n + d then .error overflow
      else readMagnitude bound overflow (10 * n + d) rest

/-- The number of a nonempty run of digits within a bound. -/
def readDigits (bound : Nat) (overflow : IntegerFault) : List Char → Except IntegerFault Nat
  | [] => .error .invalidDigit
  | digits => readMagnitude bound overflow 0 digits

/-- The integer of a text, if it is at most `above` and at least the negative of `below`. -/
def readInteger (below above : Nat) : List Char → Except IntegerFault Int
  | [] => .error .empty
  | '-' :: digits => (readDigits below .tooSmall digits).map fun n ↦ -(n : Int)
  | '+' :: digits => (readDigits above .tooLarge digits).map Int.ofNat
  | digits => (readDigits above .tooLarge digits).map Int.ofNat

/-- Read a 32-bit integer. -/
def readInt32 (text : String) : Except IntegerFault Int32 :=
  (readInteger 2147483648 2147483647 text.toList).map Int32.ofInt

/-- Read a 64-bit integer. -/
def readInt64 (text : String) : Except IntegerFault Int64 :=
  (readInteger 9223372036854775808 9223372036854775807 text.toList).map Int64.ofInt

/-- The digits of an integer, after a minus sign if it is negative. -/
def writeInteger (n : Int) : String :=
  let digits := Nat.toDigits 10 n.natAbs
  String.ofList (if n < 0 then '-' :: digits else digits)

end SettingsCache.Numeral
