import Mathlib.Algebra.Group.Nat.Defs
import SettingsCache.Reading

/-!
# Counters that wrap around

A slot holds a counter that is set to a value or counted up by one. Counting up wraps around, so
that a counter is back where it was after every 2 ^ 32 steps, and only then.
-/

namespace SettingsCache

/-- What is done to a counter. -/
inductive Touch where
  /-- It is set to a value. -/
  | set (value : Generation)
  /-- It is counted up by one. -/
  | bump
  deriving DecidableEq

namespace Touch

/-- The value of a counter after it was touched. -/
def apply (v : Generation) : Touch → Generation
  | .set value => value
  | .bump => v + 1

/-- The value of a counter after it was touched again and again. -/
def applyAll (v : Generation) (touches : List Touch) : Generation := touches.foldl apply v

theorem applyAll_append (v : Generation) (touches rest : List Touch) :
    applyAll v (touches ++ rest) = applyAll (applyAll v touches) rest := List.foldl_append

end Touch

theorem ofNat_eq_zero_iff (n : Nat) : Int32.ofNat n = 0 ↔ 2 ^ 32 ∣ n := by
  have hbits : Int32.ofNat n = 0 ↔ BitVec.ofNat 32 n = 0#32 := Int32.toBitVec_inj.symm
  rw [hbits, ← BitVec.toNat_inj, BitVec.toNat_ofNat, Nat.dvd_iff_mod_eq_zero]
  rfl

theorem Touch.applyAll_replicate_bump (v : Generation) (n : Nat) :
    applyAll v (List.replicate n .bump) = v + Int32.ofNat n := by
  induction n with
  | zero => exact (Int32.add_zero v).symm
  | succ n ih =>
    rw [List.replicate_succ', applyAll_append, ih, Int32.ofNat_add, ← Int32.add_assoc]
    rfl

/-- A counter that was only counted up is where it was just if it went around. -/
theorem Touch.applyAll_replicate_bump_eq_iff (v : Generation) (n : Nat) :
    applyAll v (List.replicate n .bump) = v ↔ 2 ^ 32 ∣ n := by
  rw [applyAll_replicate_bump, Int32.add_eq_left, ofNat_eq_zero_iff]

end SettingsCache
