import SettingsCache.Numeral.Integer
import SettingsCache.Numeral.Binary32

/-!
# Floating point numbers in decimal

A finite number is written with the fewest digits that read back to it, those of the decimal
closest to it, and always positionally: no exponent, and no point unless digits follow it. Zero
keeps its sign, and the numbers that are not finite are written `inf`, `-inf` and `NaN`.

A number is read from an optional sign, digits with at most one point among or beside them and an
optional exponent, or from a word for infinity or for no number, in any case. The number read is
the one closest to the decimal.
-/

namespace SettingsCache.Numeral

/-- The number `digits * 10 ^ exponent`. -/
structure Decimal where
  digits : Nat
  exponent : Int
  deriving DecidableEq

namespace Decimal

/-- The numerator of a decimal as a fraction. -/
def num (d : Decimal) : Nat := d.digits * Nat.pow 10 d.exponent.toNat

/-- The denominator of a decimal as a fraction. -/
def den (d : Decimal) : Nat := Nat.pow 10 (-d.exponent).toNat

/-- The magnitude of the 32-bit number closest to a decimal. -/
def nearest (d : Decimal) : Nat := Binary32.nearest d.num d.den

/-- Write a decimal positionally, without zeros after the last digit past the point. -/
def positional (d : Decimal) : List Char :=
  let digits := Nat.toDigits 10 d.digits
  if 0 ≤ d.exponent then digits ++ List.replicate d.exponent.toNat '0'
  else
    let places := (-d.exponent).toNat
    let padded := List.replicate (places + 1 - digits.length) '0' ++ digits
    let whole := padded.take (padded.length - places)
    let fraction := padded.drop (padded.length - places)
    match (fraction.reverse.dropWhile (· == '0')).reverse with
    | [] => whole
    | shown => whole ++ '.' :: shown

end Decimal

/-- A fault of a text that should be a floating point number. -/
inductive FloatFault where
  /-- There is nothing to read. -/
  | empty
  /-- The text has not the form of a number. -/
  | invalid
  deriving DecidableEq

/-- The wording of a floating point fault. -/
def FloatFault.message : FloatFault → String
  | .empty => "cannot parse float from empty string"
  | .invalid => "invalid float literal"

namespace Binary32

/-- The decimal with the digits of a magnitude's exact value: no rounding is involved. -/
def exactDecimal (magnitude : Nat) : Decimal := ⟨units magnitude * Nat.pow 5 149, -149⟩

/-- The value of a magnitude counted in units of `10 ^ exponent`, as a fraction. -/
def inUnitsOfTen (magnitude : Nat) (exponent : Int) : Nat × Nat :=
  (units magnitude * Nat.pow 10 (-exponent).toNat, Nat.pow 2 149 * Nat.pow 10 exponent.toNat)

/-- The decimal with a given exponent that reads back to a magnitude and is closest to it; of two
equally close, the greater. The value must not be below the exponent's unit. -/
def candidate? (magnitude : Nat) (exponent : Int) : Option Decimal :=
  let (num, den) := inUnitsOfTen magnitude exponent
  let below : Decimal := ⟨num / den, exponent⟩
  let above : Decimal := ⟨num / den + 1, exponent⟩
  if below.digits = 0 then none
  else if below.nearest = magnitude then
    if above.nearest = magnitude && den ≤ 2 * (num % den) then some above else some below
  else if above.nearest = magnitude then some above
  else none

/-- The exponents that can be the last of a shortest decimal, from the greatest down. -/
def exponents : List Int := (List.range 100).map fun (i : Nat) ↦ 40 - (i : Int)

/-- The decimal with the fewest digits that reads back to a finite, nonzero magnitude. -/
def shortest (magnitude : Nat) : Decimal :=
  (exponents.findSome? (candidate? magnitude)).getD (exactDecimal magnitude)

/-- Write a number. -/
def write (x : Binary32) : String :=
  if x.isNaN then "NaN"
  else
    let sign := if x.isNegative then ['-'] else []
    let digits :=
      if x.magnitude = infinity then "inf".toList
      else if x.magnitude = 0 then ['0']
      else (shortest x.magnitude).positional
    String.ofList (sign ++ digits)

/-- The number that a run of digits continues. -/
def valueOf (start : Nat) (digits : List Char) : Nat :=
  digits.foldl (fun n c ↦ 10 * n + (c.toNat - 48)) start

/-- The size of an exponent; from 65536 on, where no text of that length changes the number read,
further digits are passed over. -/
def exponentSize (digits : List Char) : Nat :=
  digits.foldl (fun n c ↦ if n < 0x10000 then 10 * n + (c.toNat - 48) else n) 0

/-- The exponent of a text that holds nothing else, after its mark. -/
def exponentOf? : List Char → Option Int
  | '-' :: digits => size? digits |>.map fun n ↦ -(n : Int)
  | '+' :: digits => size? digits |>.map Int.ofNat
  | digits => size? digits |>.map Int.ofNat
where
  /-- The size of a nonempty run of digits. -/
  size? (digits : List Char) : Option Nat :=
    if digits.isEmpty || !digits.all Char.isDigit then none else some (exponentSize digits)

/-- The decimal of an unsigned text. -/
def decimalOf? (text : List Char) : Option Decimal :=
  let whole := text.takeWhile Char.isDigit
  let rest := text.dropWhile Char.isDigit
  let (fraction, rest) :=
    match rest with
    | '.' :: after => (after.takeWhile Char.isDigit, after.dropWhile Char.isDigit)
    | _ => ([], rest)
  if whole.isEmpty && fraction.isEmpty then none
  else
    let digits := valueOf (valueOf 0 whole) fraction
    let places : Int := fraction.length
    match rest with
    | [] => some ⟨digits, -places⟩
    | mark :: after =>
      if mark == 'e' || mark == 'E' then (exponentOf? after).map fun e ↦ ⟨digits, e - places⟩
      else none

/-- The magnitude of a word that stands for no finite number. -/
def wordMagnitude? (text : List Char) : Option Nat :=
  let word := text.map Char.toLower
  if word = "inf".toList || word = "infinity".toList then some infinity
  else if word = "nan".toList then some (infinity + Nat.pow 2 22)
  else none

/-- The magnitude of an unsigned text. -/
def magnitudeOf? (text : List Char) : Option Nat :=
  match decimalOf? text with
  | some d => some d.nearest
  | none => wordMagnitude? text

/-- Read a number. -/
def read (text : String) : Except FloatFault Binary32 :=
  let signed (negative : Bool) (unsigned : List Char) : Except FloatFault Binary32 :=
    match magnitudeOf? unsigned with
    | some magnitude => .ok (ofMagnitude negative magnitude)
    | none => .error .invalid
  match text.toList with
  | [] => .error .empty
  | '-' :: unsigned => signed true unsigned
  | '+' :: unsigned => signed false unsigned
  | unsigned => signed false unsigned

end Binary32

end SettingsCache.Numeral
