import Std.Data.ExtTreeMap.Lemmas
import SettingsCache.Block.Mapped

/-!
# Bytes and slots of files

What each operation on a file does to its size and to the byte at every offset, and from that what
storing the four bytes of a value does to every slot: the slot holds the value, and the others
hold what they held.
-/

namespace SettingsCache

namespace File

/-! ## Bytes -/

@[simp] theorem length_content (f : File) : f.content.length = f.size := by
  simp [content]

/-- Storing bytes does not make a file longer. -/
@[simp] theorem size_poke (f : File) (offset : Nat) (bytes : List UInt8) :
    (f.poke offset bytes).size = f.size := by
  induction bytes generalizing f offset with
  | nil => rfl
  | cons b rest ih => exact ih ..

theorem byte_store (f : File) (offset : Nat) (b : UInt8) (i : Nat) :
    File.byte { f with stored := f.stored.insert offset b } i =
      if i = offset then b else f.byte i := by
  by_cases h : i = offset
  · simp [byte, h]
  · simp [byte, Std.ExtTreeMap.getD_insert, h, Ne.symm h]

/-- Storing bytes leaves the bytes before and after them. -/
theorem byte_poke_of_outside (f : File) (offset : Nat) (bytes : List UInt8) {i : Nat}
    (h : i < offset ∨ offset + bytes.length ≤ i) : (f.poke offset bytes).byte i = f.byte i := by
  induction bytes generalizing f offset with
  | nil => rfl
  | cons b rest ih =>
    rw [List.length_cons] at h
    rw [poke, ih _ _ (by omega), byte_store, if_neg (by omega)]

/-- The bytes stored from an offset on stand there. -/
theorem byte_poke_add (f : File) (offset : Nat) (bytes : List UInt8) {k : Nat}
    (h : k < bytes.length) : (f.poke offset bytes).byte (offset + k) = bytes[k] := by
  induction bytes generalizing f offset k with
  | nil => exact absurd h (Nat.not_lt_zero k)
  | cons b rest ih =>
    rw [poke]
    cases k with
    | zero =>
      rw [byte_poke_of_outside _ _ _ (by omega), byte_store, if_pos (Nat.add_zero offset)]
      rfl
    | succ k =>
      have hk : offset + (k + 1) = offset + 1 + k := by omega
      rw [hk]
      exact ih _ _ (Nat.lt_of_succ_lt_succ h)

@[simp] theorem size_resize (f : File) (size : Nat) : (f.resize size).size = size := rfl

/-- Of a file that is cut off or made longer, the bytes within both sizes are left, and the others
are zero. -/
theorem byte_resize (f : File) (size i : Nat) :
    (f.resize size).byte i = if i < min size f.size then f.byte i else 0 := by
  simp only [byte, resize, Std.ExtTreeMap.getD_eq_getD_getElem?,
    Std.ExtTreeMap.getElem?_filter']
  by_cases h : i < min size f.size
  · cases f.stored[i]? <;> simp [Option.filter, h]
  · simp [h]

/-- A file that was cut off holds zeros once it is made longer. -/
theorem content_resize_of_empty {f : File} (h : f.size = 0) (size : Nat) :
    (f.resize size).content = List.replicate size 0 := by
  apply List.eq_replicate_iff.mpr
  constructor
  · rw [length_content, size_resize]
  · intro b hb
    obtain ⟨i, -, rfl⟩ := List.mem_map.mp hb
    rw [byte_resize, h, Nat.min_zero, if_neg (Nat.not_lt_zero i)]

end File

/-! ## Slots -/

/-- A value is read off its four bytes. -/
theorem decodeSlot_encodeSlot (value : Generation) {bytes : List UInt8}
    (h : encodeSlot value = bytes) (hlength : bytes.length = 4) :
    decodeSlot bytes[0] bytes[1] bytes[2] bytes[3] = value := by
  subst h
  have hlt : value.toUInt32.toNat < 4294967296 := value.toUInt32.toNat_lt
  have hdigits (n : Nat) (hn : n < 4294967296) : n % 256 + 256 * (n / 256 % 256) +
      65536 * (n / 65536 % 256) + 16777216 * (n / 16777216 % 256) = n := by
    omega
  simp only [encodeSlot, decodeSlot, List.getElem_cons_zero, List.getElem_cons_succ,
    UInt8.toNat_ofNat', Nat.reducePow]
  rw [hdigits _ hlt, UInt32.ofNat_toNat]
  rfl

namespace Directory

/-- Storing a value in a slot of a file changes this slot alone. -/
theorem slotOf_poke (f : File) (index : Nat) (value : Generation) (i : Nat) :
    slotOf (f.poke (index * slotSize) (encodeSlot value)) i =
      if i = index then value else slotOf f i := by
  have hlength : (encodeSlot value).length = 4 := rfl
  unfold slotOf slotSize
  by_cases h : i = index
  · subst h
    rw [if_pos rfl]
    dsimp only
    rw [File.byte_poke_add _ _ _ (by omega), File.byte_poke_add _ _ _ (by omega),
      File.byte_poke_add _ _ _ (by omega), File.byte_poke_add _ _ _ (by omega)]
    exact decodeSlot_encodeSlot value rfl hlength
  · rw [if_neg h]
    dsimp only
    rw [File.byte_poke_of_outside _ _ _ (by omega), File.byte_poke_of_outside _ _ _ (by omega),
      File.byte_poke_of_outside _ _ _ (by omega), File.byte_poke_of_outside _ _ _ (by omega)]

/-- A file that was cut off holds zero in every slot once it is made longer. -/
theorem slotOf_resize_of_empty {f : File} (h : f.size = 0) (size i : Nat) :
    slotOf (f.resize size) i = 0 := by
  have hbyte (offset : Nat) : (f.resize size).byte offset = 0 := by
    rw [File.byte_resize, h, Nat.min_zero, if_neg (Nat.not_lt_zero offset)]
  simp only [slotOf, hbyte]
  rfl

end Directory

end SettingsCache
