import Mathlib.Algebra.Group.Nat.Defs
import SettingsCache.Proofs.Block.File

/-!
# Slots and their bytes

A slot's value is the number that its four bytes stand for in two's complement, and its bytes can be
read off the value again (`toInt_decodeSlot`, `encodeSlot_decodeSlot`). So slots and the bytes of
whole slots tell one another (`decodeSlots_encodeSlots`, `encodeSlots_decodeSlots`), and a file that
is made up of slots holds their bytes and no others (`Directory.content_eq_encodeSlots`).
-/

namespace SettingsCache

/-! ## Numbers and bytes -/

/-- The number that bytes stand for, the least significant first. -/
def littleEndian : List UInt8 → Nat
  | [] => 0
  | b :: rest => b.toNat + 256 * littleEndian rest

/-- The bytes of slots, one slot after another. -/
def encodeSlots (slots : List Generation) : List UInt8 := slots.flatMap encodeSlot

/-- The values of slots, four bytes each. Bytes that are left over stand for nothing. -/
def decodeSlots : List UInt8 → List Generation
  | b0 :: b1 :: b2 :: b3 :: rest => decodeSlot b0 b1 b2 b3 :: decodeSlots rest
  | _ => []

theorem decodeSlot_eq (b0 b1 b2 b3 : UInt8) :
    decodeSlot b0 b1 b2 b3 = (UInt32.ofNat (littleEndian [b0, b1, b2, b3])).toInt32 := by
  have hsum : littleEndian [b0, b1, b2, b3] =
      b0.toNat + 256 * b1.toNat + 65536 * b2.toNat + 16777216 * b3.toNat := by
    simp only [littleEndian]
    omega
  rw [decodeSlot, hsum]

/-- The value of a slot is the number that its bytes stand for in two's complement. -/
theorem toInt_decodeSlot (b0 b1 b2 b3 : UInt8) :
    (decodeSlot b0 b1 b2 b3).toInt = (littleEndian [b0, b1, b2, b3] : Int).bmod (2 ^ 32) := by
  rw [decodeSlot_eq]
  exact BitVec.toInt_ofNat' _

/-- The bytes of a slot are read off its value. -/
theorem encodeSlot_decodeSlot (b0 b1 b2 b3 : UInt8) :
    encodeSlot (decodeSlot b0 b1 b2 b3) = [b0, b1, b2, b3] := by
  have h0 := b0.toNat_lt
  have h1 := b1.toNat_lt
  have h2 := b2.toNat_lt
  have h3 := b3.toNat_lt
  have hvalue : (decodeSlot b0 b1 b2 b3).toUInt32.toNat =
      b0.toNat + 256 * b1.toNat + 65536 * b2.toNat + 16777216 * b3.toNat := by
    rw [decodeSlot, UInt32.toUInt32_toInt32, UInt32.toNat_ofNat']
    omega
  have hbyte (b : UInt8) {n : Nat} (h : n % 256 = b.toNat) : UInt8.ofNat n = b := by
    apply UInt8.toNat_inj.mp
    rw [UInt8.toNat_ofNat']
    exact h
  unfold encodeSlot
  rw [hvalue]
  dsimp only
  rw [hbyte b0 (by omega), hbyte b1 (by omega), hbyte b2 (by omega), hbyte b3 (by omega)]

@[simp] theorem length_encodeSlots (slots : List Generation) :
    (encodeSlots slots).length = 4 * slots.length := by
  induction slots with
  | nil => rfl
  | cons value rest ih =>
    rw [encodeSlots, List.flatMap_cons, List.length_append, ← encodeSlots, ih, List.length_cons]
    change 4 + _ = _
    omega

/-- Slots are read off their bytes. -/
theorem decodeSlots_encodeSlots (slots : List Generation) :
    decodeSlots (encodeSlots slots) = slots := by
  induction slots with
  | nil => rfl
  | cons value rest ih =>
    have hfirst := decodeSlot_encodeSlot value rfl rfl
    rw [encodeSlots, List.flatMap_cons, ← encodeSlots]
    change decodeSlot _ _ _ _ :: decodeSlots (encodeSlots rest) = _
    rw [ih]
    exact congrArg (· :: rest) hfirst

/-- Bytes that make up whole slots are read off these. -/
theorem encodeSlots_decodeSlots (bytes : List UInt8) (h : bytes.length % 4 = 0) :
    encodeSlots (decodeSlots bytes) = bytes := by
  fun_induction decodeSlots bytes with
  | case1 b0 b1 b2 b3 rest ih =>
    have hrest : rest.length % 4 = 0 := by
      simp only [List.length_cons] at h
      omega
    rw [encodeSlots, List.flatMap_cons, ← encodeSlots, ih hrest, encodeSlot_decodeSlot]
    rfl
  | case2 bytes hshort =>
    match bytes, h, hshort with
    | [], _, _ => rfl
    | b0 :: b1 :: b2 :: b3 :: rest, _, hshort => exact absurd rfl (hshort b0 b1 b2 b3 rest)
    | [_], h, _ | [_, _], h, _ | [_, _, _], h, _ => simp at h

namespace Directory

/-! ## Files that are made up of slots -/

/-- A file that is made up of slots holds their bytes. -/
theorem content_eq_encodeSlots {f : File} {slots : List Generation}
    (hsize : f.size = 4 * slots.length)
    (hslots : ∀ (i : Nat) (h : i < slots.length), slotOf f i = slots[i]) :
    f.content = encodeSlots slots := by
  have hprefix (n : Nat) (h : n ≤ slots.length) :
      (List.range (4 * n)).map f.byte = encodeSlots (slots.take n) := by
    induction n with
    | zero => rfl
    | succ n ih =>
      have hfour : List.range (4 * (n + 1)) =
          List.range (4 * n) ++ [4 * n, 4 * n + 1, 4 * n + 2, 4 * n + 3] := by
        simp [Nat.mul_add, List.range_succ]
      have hslot : encodeSlot slots[n] =
          [f.byte (4 * n), f.byte (4 * n + 1), f.byte (4 * n + 2), f.byte (4 * n + 3)] := by
        rw [← hslots n h, slotOf, encodeSlot_decodeSlot, Nat.mul_comm n]
        rfl
      rw [hfour, List.map_append, ih (Nat.le_of_succ_le h), List.take_succ_eq_append_getElem h,
        encodeSlots, encodeSlots, List.flatMap_append, List.flatMap_singleton, hslot]
      rfl
  rw [File.content, hsize, hprefix _ (Nat.le_refl _), List.take_length]

/-- A slot of a file has the value that its four bytes stand for. -/
theorem toInt_slotOf {f : File} {i : Nat} (h : 4 * i + 4 ≤ f.size) :
    (slotOf f i).toInt =
      (littleEndian ((f.content.drop (4 * i)).take 4) : Int).bmod (2 ^ 32) := by
  have hbytes : (f.content.drop (4 * i)).take 4 =
      [f.byte (4 * i), f.byte (4 * i + 1), f.byte (4 * i + 2), f.byte (4 * i + 3)] := by
    have hlength : f.content.length = f.size := f.length_content
    apply List.ext_getElem
    · simp [hlength]
      omega
    · intro k hk hk'
      have hk4 : k < 4 := hk'
      obtain rfl | rfl | rfl | rfl : k = 0 ∨ k = 1 ∨ k = 2 ∨ k = 3 := by omega
      all_goals simp [File.content]
  rw [hbytes, slotOf, toInt_decodeSlot, Nat.mul_comm i]
  rfl

end Directory

end SettingsCache
