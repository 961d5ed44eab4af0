import Mathlib.Algebra.Group.Nat.Defs
import SettingsCache.Numeral.Integer

/-!
# What integers are denoted by

Digits stand for a number by their places. A text denotes an integer if it is a nonempty run of
digits behind at most one sign, and every text denotes one integer at most. A text is read as an
integer just if it denotes that integer (`readInteger_eq_ok_iff`), and what is written for an
integer denotes it (`denotesInteger_writeInteger`), so every integer in range reads back.
-/

namespace SettingsCache.Numeral

/-! ## Digits -/

/-- A nonempty run of ASCII digits. -/
def IsNumeral (digits : List Char) : Prop := digits ≠ [] ∧ ∀ c ∈ digits, c.isDigit = true

/-- The number that digits stand for, each with the weight of its place. -/
def placeValue : List Char → Nat
  | [] => 0
  | c :: rest => (c.toNat - 48) * 10 ^ rest.length + placeValue rest

/-- Digits that are counted from the left come to what their places say. -/
theorem ofDigitChars_eq (digits : List Char) (n : Nat) :
    Nat.ofDigitChars 10 digits n = n * 10 ^ digits.length + placeValue digits := by
  induction digits generalizing n with
  | nil => simp [placeValue]
  | cons c rest ih =>
    have hzero : '0'.toNat = 48 := rfl
    rw [Nat.ofDigitChars_cons, ih, placeValue, List.length_cons, hzero, Nat.add_mul, Nat.pow_succ,
      Nat.add_assoc, Nat.mul_comm 10 n, Nat.mul_assoc, Nat.mul_comm 10]

theorem placeValue_append (digits more : List Char) : placeValue (digits ++ more) =
    placeValue digits * 10 ^ more.length + placeValue more := by
  have h := ofDigitChars_eq (digits ++ more) 0
  rw [Nat.ofDigitChars_append, ofDigitChars_eq, ofDigitChars_eq digits] at h
  simp only [Nat.zero_mul, Nat.zero_add] at h
  exact h.symm

theorem placeValue_replicate_zero (n : Nat) : placeValue (List.replicate n '0') = 0 := by
  induction n with
  | zero => rfl
  | succ n ih =>
    rw [List.replicate_succ, placeValue, ih]
    exact Nat.zero_mul _

/-- Zeros in front change nothing. -/
theorem placeValue_zeros_append (n : Nat) (digits : List Char) :
    placeValue (List.replicate n '0' ++ digits) = placeValue digits := by
  rw [placeValue_append, placeValue_replicate_zero, Nat.zero_mul, Nat.zero_add]

theorem placeValue_toDigits (n : Nat) : placeValue (Nat.toDigits 10 n) = n := by
  have h := ofDigitChars_eq (Nat.toDigits 10 n) 0
  rw [Nat.ofDigitChars_ten_toDigits, Nat.zero_mul, Nat.zero_add] at h
  exact h.symm

theorem isNumeral_toDigits (n : Nat) : IsNumeral (Nat.toDigits 10 n) :=
  ⟨Nat.toDigits_ne_nil, fun _ hc ↦ Nat.isDigit_of_mem_toDigits (by decide) (by decide) hc⟩

/-- No sign is a digit. -/
theorem IsNumeral.not_signed {text digits : List Char} (h : IsNumeral text) :
    text ≠ '-' :: digits ∧ text ≠ '+' :: digits := by
  constructor
  · rintro rfl
    exact absurd (h.2 '-' List.mem_cons_self) (by decide)
  · rintro rfl
    exact absurd (h.2 '+' List.mem_cons_self) (by decide)

/-! ## Texts of integers -/

/-- A text denotes an integer: at most one sign, then a nonempty run of digits and nothing else. -/
inductive DenotesInteger : List Char → Int → Prop
  | plain {digits : List Char} (h : IsNumeral digits) : DenotesInteger digits (placeValue digits)
  | plus {digits : List Char} (h : IsNumeral digits) :
      DenotesInteger ('+' :: digits) (placeValue digits)
  | minus {digits : List Char} (h : IsNumeral digits) :
      DenotesInteger ('-' :: digits) (-(placeValue digits : Int))

namespace DenotesInteger

variable {digits text : List Char} {m n : Int}

theorem minus_iff : DenotesInteger ('-' :: digits) n ↔
    IsNumeral digits ∧ n = -(placeValue digits : Int) := by
  constructor
  · intro h
    cases h with
    | plain h => exact absurd rfl h.not_signed.1
    | minus h => exact ⟨h, rfl⟩
  · rintro ⟨h, rfl⟩
    exact .minus h

theorem plus_iff : DenotesInteger ('+' :: digits) n ↔ IsNumeral digits ∧ n = placeValue digits := by
  constructor
  · intro h
    cases h with
    | plain h => exact absurd rfl h.not_signed.2
    | plus h => exact ⟨h, rfl⟩
  · rintro ⟨h, rfl⟩
    exact .plus h

theorem plain_iff (hminus : ∀ rest, text ≠ '-' :: rest) (hplus : ∀ rest, text ≠ '+' :: rest) :
    DenotesInteger text n ↔ IsNumeral text ∧ n = placeValue text := by
  constructor
  · intro h
    cases h with
    | plain h => exact ⟨h, rfl⟩
    | plus => exact absurd rfl (hplus _)
    | minus => exact absurd rfl (hminus _)
  · rintro ⟨h, rfl⟩
    exact .plain h

/-- A text denotes one integer at most. -/
theorem unique (hm : DenotesInteger text m) (hn : DenotesInteger text n) : m = n := by
  cases hm with
  | plus => exact (plus_iff.mp hn).2.symm
  | minus => exact (minus_iff.mp hn).2.symm
  | plain h =>
    have hn := (plain_iff (fun _ ↦ h.not_signed.1) (fun _ ↦ h.not_signed.2)).mp hn
    exact hn.2.symm

end DenotesInteger

/-! ## Reading -/

theorem digit?_of_isDigit {c : Char} (h : c.isDigit = true) : digit? c = some (c.toNat - 48) :=
  if_pos h

theorem digit?_of_not_isDigit {c : Char} (h : ¬ c.isDigit = true) : digit? c = none := if_neg h

/-- A magnitude is read just if all is digits and it is within the bound. Reading stops at the
first number out of bounds, from which further digits would not lead back. -/
theorem readMagnitude_eq_ok_iff {bound : Nat} {overflow : IntegerFault} {digits : List Char}
    {n m : Nat} (hn : n ≤ bound) : readMagnitude bound overflow n digits = .ok m ↔
      (∀ c ∈ digits, c.isDigit = true) ∧ Nat.ofDigitChars 10 digits n = m ∧ m ≤ bound := by
  induction digits generalizing n with
  | nil =>
    rw [readMagnitude, Except.ok.injEq, Nat.ofDigitChars_nil]
    constructor
    · rintro rfl
      exact ⟨fun _ hc ↦ absurd hc List.not_mem_nil, rfl, hn⟩
    · exact fun h ↦ h.2.1
  | cons c rest ih =>
    rw [readMagnitude, List.forall_mem_cons]
    by_cases hc : c.isDigit = true
    · rw [digit?_of_isDigit hc, Nat.ofDigitChars_cons]
      dsimp only
      split
      · next hover =>
        refine iff_of_false (nomatch ·) ?_
        rintro ⟨-, hm, hle⟩
        have hgrows := ofDigitChars_eq rest (10 * n + (c.toNat - 48))
        have hpos := Nat.le_mul_of_pos_right (10 * n + (c.toNat - 48))
          (Nat.pow_pos (n := rest.length) (by decide : 0 < 10))
        have hzero : '0'.toNat = 48 := rfl
        rw [hzero, hgrows] at hm
        omega
      · next hwithin =>
        rw [ih (Nat.le_of_not_lt hwithin), and_iff_right hc]
        rfl
    · rw [digit?_of_not_isDigit hc]
      exact iff_of_false (nomatch ·) fun h ↦ hc h.1.1

theorem readDigits_eq_ok_iff {bound : Nat} {overflow : IntegerFault} {digits : List Char}
    {m : Nat} : readDigits bound overflow digits = .ok m ↔
      IsNumeral digits ∧ placeValue digits = m ∧ m ≤ bound := by
  cases digits with
  | nil => exact iff_of_false (nomatch ·) fun h ↦ h.1.1 rfl
  | cons c rest =>
    rw [readDigits, readMagnitude_eq_ok_iff (Nat.zero_le _), ofDigitChars_eq, Nat.zero_mul,
      Nat.zero_add, IsNumeral, and_iff_right (List.cons_ne_nil c rest)]
    exact List.cons_ne_nil c rest

/-- What is made of a magnitude that was read. -/
theorem map_readDigits_eq_ok_iff {bound : Nat} {overflow : IntegerFault} {digits : List Char}
    {f : Nat → Int} {n : Int} : (readDigits bound overflow digits).map f = .ok n ↔
      (IsNumeral digits ∧ n = f (placeValue digits)) ∧ placeValue digits ≤ bound := by
  cases hread : readDigits bound overflow digits with
  | error e =>
    refine iff_of_false (nomatch ·) ?_
    rintro ⟨⟨hdigits, -⟩, hle⟩
    rw [readDigits_eq_ok_iff.mpr ⟨hdigits, rfl, hle⟩] at hread
    cases hread
  | ok m =>
    obtain ⟨hdigits, rfl, hle⟩ := readDigits_eq_ok_iff.mp hread
    rw [and_iff_left hle, and_iff_right hdigits, eq_comm]
    exact Except.ok.injEq .. |>.to_iff

/-- A text is read as an integer just if it denotes it and the integer is in range. -/
theorem readInteger_eq_ok_iff {below above : Nat} {text : List Char} {n : Int} :
    readInteger below above text = .ok n ↔ DenotesInteger text n ∧ -below ≤ n ∧ n ≤ above := by
  unfold readInteger
  split
  · refine iff_of_false (nomatch ·) ?_
    rintro ⟨hdenotes, -⟩
    cases hdenotes with
    | plain h => exact h.1 rfl
  · next digits =>
    have hnegated (x : Except IntegerFault Nat) :
        (x >>= fun m ↦ pure (m : Int)).map (fun m ↦ -m) = x.map fun m : Nat ↦ -(m : Int) := by
      cases x <;> rfl
    rw [hnegated, map_readDigits_eq_ok_iff, DenotesInteger.minus_iff]
    refine and_congr_right fun h ↦ ?_
    obtain ⟨-, rfl⟩ := h
    omega
  · rw [map_readDigits_eq_ok_iff, DenotesInteger.plus_iff]
    refine and_congr_right fun h ↦ ?_
    rw [h.2, Int.ofNat_eq_natCast]
    omega
  · next hminus hplus =>
    rw [map_readDigits_eq_ok_iff, DenotesInteger.plain_iff hminus hplus]
    refine and_congr_right fun h ↦ ?_
    rw [h.2, Int.ofNat_eq_natCast]
    omega

/-- A type of integers holds just the integers of a range. -/
theorem map_readInteger_eq_ok_iff {α : Type} {below above : Nat} {ofInt : Int → α}
    {toInt : α → Int} (hrange : ∀ n, -below ≤ toInt n ∧ toInt n ≤ above)
    (ofInt_toInt : ∀ n, ofInt (toInt n) = n)
    (toInt_ofInt : ∀ n : Int, -below ≤ n → n ≤ above → toInt (ofInt n) = n)
    {text : List Char} {n : α} :
    (readInteger below above text).map ofInt = .ok n ↔ DenotesInteger text (toInt n) := by
  cases hread : readInteger below above text with
  | error e =>
    refine iff_of_false (nomatch ·) fun hdenotes ↦ ?_
    rw [readInteger_eq_ok_iff.mpr ⟨hdenotes, hrange n⟩] at hread
    cases hread
  | ok m =>
    obtain ⟨hdenotes, hbelow, habove⟩ := readInteger_eq_ok_iff.mp hread
    constructor
    · intro h
      cases h
      rw [toInt_ofInt m hbelow habove]
      exact hdenotes
    · intro hdenotes'
      rw [hdenotes.unique hdenotes']
      exact congrArg Except.ok (ofInt_toInt n)

/-- A text is read as a 32-bit integer just if it denotes it. -/
theorem readInt32_eq_ok_iff {text : String} {n : Int32} :
    readInt32 text = .ok n ↔ DenotesInteger text.toList n.toInt := by
  refine map_readInteger_eq_ok_iff (fun n ↦ ⟨n.le_toInt, Int.le_of_lt_add_one n.toInt_lt⟩)
    Int32.ofInt_toInt fun n hbelow habove ↦ ?_
  exact Int32.toInt_ofInt_of_le hbelow (by omega)

/-- A text is read as a 64-bit integer just if it denotes it. -/
theorem readInt64_eq_ok_iff {text : String} {n : Int64} :
    readInt64 text = .ok n ↔ DenotesInteger text.toList n.toInt := by
  refine map_readInteger_eq_ok_iff (fun n ↦ ⟨n.le_toInt, Int.le_of_lt_add_one n.toInt_lt⟩)
    Int64.ofInt_toInt fun n hbelow habove ↦ ?_
  exact Int64.toInt_ofInt_of_le hbelow (by omega)

/-! ## Writing -/

/-- An integer is written in the usual decimal notation. -/
theorem writeInteger_eq_toString (n : Int) : writeInteger n = toString n := by
  rw [Int.toString_eq_repr, Int.repr_eq_if, writeInteger]
  by_cases hneg : n < 0
  · rw [if_pos hneg, if_neg (Int.not_le.mpr hneg), Nat.repr_eq_ofList_toDigits]
    have habs : n.natAbs = (-n).toNat := by omega
    rw [habs]
    exact String.ofList_cons
  · rw [if_neg hneg, if_pos (Int.not_lt.mp hneg), Nat.repr_eq_ofList_toDigits]
    have habs : n.natAbs = n.toNat := by omega
    rw [habs]

/-- What is written for an integer denotes it. -/
theorem denotesInteger_writeInteger (n : Int) : DenotesInteger (writeInteger n).toList n := by
  unfold writeInteger
  rw [String.toList_ofList]
  have hdigits := isNumeral_toDigits n.natAbs
  split
  · rw [DenotesInteger.minus_iff, placeValue_toDigits]
    exact ⟨hdigits, by omega⟩
  · have hplain := DenotesInteger.plain hdigits
    rw [placeValue_toDigits] at hplain
    have habs : (n.natAbs : Int) = n := by omega
    rw [habs] at hplain
    exact hplain

end SettingsCache.Numeral
