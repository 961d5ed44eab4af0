/-!
# Binary floating point of 32 bits

A 32-bit pattern stands for a sign and a magnitude. Read as numbers, the magnitudes of the finite
patterns are in the order of their values: the magnitude `k * 2 ^ 23 + m`, with `m` below `2 ^ 24`
and `m` at least `2 ^ 23` unless `k` is zero, stands for `m * 2 ^ k` units of `2 ^ -149`.

`nearest` finds the pattern closest to a fraction, a tie going to the even pattern. It is exact:
everything is computed on natural numbers.
-/

namespace SettingsCache.Numeral

/-- A 32-bit floating point number, by its bits. -/
structure Binary32 where
  bits : UInt32
  deriving DecidableEq

namespace Binary32

/-- The magnitude of infinity; those above it are not numbers. -/
def infinity : Nat := 0x7F800000

/-- The weight of the sign bit. -/
def signWeight : Nat := 0x80000000

/-- Whether the sign bit is set. -/
def isNegative (x : Binary32) : Bool := signWeight ≤ x.bits.toNat

/-- The bits below the sign, as a number. -/
def magnitude (x : Binary32) : Nat := x.bits.toNat % signWeight

/-- The number of a sign and a magnitude. -/
def ofMagnitude (negative : Bool) (magnitude : Nat) : Binary32 :=
  ⟨UInt32.ofNat (if negative then signWeight + magnitude else magnitude)⟩

/-- Whether the bits stand for no number. -/
def isNaN (x : Binary32) : Bool := infinity < x.magnitude

/-- The value of a finite magnitude, counted in units of `2 ^ -149`. -/
def units (magnitude : Nat) : Nat :=
  let exponent := magnitude / Nat.pow 2 23
  let fraction := magnitude % Nat.pow 2 23
  if exponent = 0 then fraction else (Nat.pow 2 23 + fraction) * Nat.pow 2 (exponent - 1)

/-- The whole number closest to a fraction; of two equally close, the even one. -/
def roundHalfEven (num den : Nat) : Nat :=
  let whole := num / den
  let rest := num % den
  if 2 * rest < den then whole
  else if den < 2 * rest then whole + 1
  else whole + whole % 2

/-- The magnitude closest to a fraction, infinity if the fraction rounds past the last number. -/
def nearest (num den : Nat) : Nat :=
  let scaled := num * Nat.pow 2 149
  let scale := Nat.log2 (scaled / den) - 23
  min (scale * Nat.pow 2 23 + roundHalfEven scaled (den * Nat.pow 2 scale)) infinity

end Binary32

end SettingsCache.Numeral
