import Mathlib.Algebra.Order.Field.Rat
import Mathlib.Data.List.DropRight
import Mathlib.Data.List.TakeWhile
import Mathlib.Data.Nat.Cast.Order.Field
import Mathlib.Tactic.FieldSimp
import Mathlib.Tactic.Positivity
import SettingsCache.Numeral.Decimal
import SettingsCache.Proofs.Numeral.Integers

/-!
# Positional notation

Digits with or without a point among them stand for a rational number. A decimal is written as a
text of its number (`Decimal.denotes_positional`), and such a text is read as a decimal of its
number (`decimalOf?_of_denotes`).
-/

namespace SettingsCache.Numeral

/-! ## Decimals and their texts -/

/-- The number that a decimal stands for. -/
def Decimal.value (d : Decimal) : ℚ := d.digits * 10 ^ d.exponent

theorem Decimal.num_div_den (d : Decimal) : (d.num : ℚ) / d.den = d.value := by
  unfold num den value
  simp only [Nat.pow_eq]
  rcases d with ⟨digits, n | n⟩
  · simp
  · have hnum : (Int.negSucc n).toNat = 0 := rfl
    have hden : (-Int.negSucc n).toNat = n + 1 := rfl
    rw [hnum, hden, zpow_negSucc, Nat.pow_zero, Nat.mul_one, div_eq_mul_inv]
    push_cast
    rfl

theorem Decimal.den_pos (d : Decimal) : 0 < d.den := Nat.pow_pos (by decide)

/-- A text stands for a number in positional notation: digits, a point, and digits; or without a
fraction, digits alone. -/
inductive DenotesFraction : List Char → ℚ → Prop
  | whole {digits : List Char} (h : IsNumeral digits) : DenotesFraction digits (placeValue digits)
  | point {whole fraction : List Char} (hwhole : IsNumeral whole) (hfraction : IsNumeral fraction) :
      DenotesFraction (whole ++ '.' :: fraction)
        (placeValue whole + placeValue fraction / 10 ^ fraction.length)

/-- A text in positional notation begins with a digit. -/
theorem DenotesFraction.head {text : List Char} {q : ℚ} (h : DenotesFraction text q) :
    ∃ c rest, text = c :: rest ∧ c.isDigit = true := by
  have hnumeral {digits : List Char} (h : IsNumeral digits) :
      ∃ c rest, digits = c :: rest ∧ c.isDigit = true := by
    obtain ⟨c, rest, rfl⟩ := List.exists_cons_of_ne_nil h.1
    exact ⟨c, rest, rfl, h.2 c List.mem_cons_self⟩
  cases h with
  | whole h => exact hnumeral h
  | point hwhole =>
    obtain ⟨c, rest, rfl, hc⟩ := hnumeral hwhole
    exact ⟨c, rest ++ '.' :: _, rfl, hc⟩

/-! ## Reading -/

theorem valueOf_eq (start : Nat) (digits : List Char) :
    Binary32.valueOf start digits = start * 10 ^ digits.length + placeValue digits :=
  ofDigitChars_eq digits start

/-- Digits alone are read as a whole number. -/
theorem decimalOf?_whole {digits : List Char} (h : IsNumeral digits) :
    Binary32.decimalOf? digits = some ⟨placeValue digits, 0⟩ := by
  have htake : digits.takeWhile Char.isDigit = digits := List.takeWhile_eq_self_iff.mpr h.2
  have hdrop : digits.dropWhile Char.isDigit = [] := List.dropWhile_eq_nil_iff.mpr h.2
  have hne : digits.isEmpty = false := List.isEmpty_eq_false_iff.mpr h.1
  have hvalue : Binary32.valueOf (Binary32.valueOf 0 digits) [] = placeValue digits := by
    rw [valueOf_eq, valueOf_eq]
    simp [placeValue]
  simp [Binary32.decimalOf?, htake, hdrop, hne, hvalue]

/-- Digits on both sides of a point are read as one run with as many places as there are past the
point. -/
theorem decimalOf?_point {whole fraction : List Char} (hwhole : IsNumeral whole)
    (hfraction : IsNumeral fraction) : Binary32.decimalOf? (whole ++ '.' :: fraction) =
      some ⟨placeValue (whole ++ fraction), -(fraction.length : Int)⟩ := by
  have htake : (whole ++ '.' :: fraction).takeWhile Char.isDigit = whole := by
    rw [List.takeWhile_append_of_pos hwhole.2]
    exact List.append_nil whole
  have hdrop : (whole ++ '.' :: fraction).dropWhile Char.isDigit = '.' :: fraction :=
    List.dropWhile_append_of_pos hwhole.2
  have htake' : fraction.takeWhile Char.isDigit = fraction :=
    List.takeWhile_eq_self_iff.mpr hfraction.2
  have hdrop' : fraction.dropWhile Char.isDigit = [] := List.dropWhile_eq_nil_iff.mpr hfraction.2
  have hne : whole.isEmpty = false := List.isEmpty_eq_false_iff.mpr hwhole.1
  have hvalue : Binary32.valueOf (Binary32.valueOf 0 whole) fraction =
      placeValue (whole ++ fraction) := by
    rw [valueOf_eq, valueOf_eq, placeValue_append, Nat.zero_mul, Nat.zero_add]
  simp [Binary32.decimalOf?, htake, hdrop, htake', hdrop', hne, hvalue]

/-- A text in positional notation is read as a decimal of its number. -/
theorem decimalOf?_of_denotes {text : List Char} {q : ℚ} (h : DenotesFraction text q) :
    ∃ d, Binary32.decimalOf? text = some d ∧ d.value = q := by
  cases h with
  | whole h =>
    refine ⟨_, decimalOf?_whole h, ?_⟩
    rw [Decimal.value, zpow_zero, mul_one]
  | point hwhole hfraction =>
    refine ⟨_, decimalOf?_point hwhole hfraction, ?_⟩
    rw [Decimal.value, placeValue_append, zpow_neg, zpow_natCast]
    push_cast
    field_simp

/-! ## Writing -/

/-- Zeros at the end of a fraction are left out, and its point if nothing else is there. -/
theorem denotes_trimmed {whole fraction : List Char} (hwhole : IsNumeral whole)
    (hfraction : ∀ c ∈ fraction, c.isDigit = true) :
    DenotesFraction
      (match (fraction.reverse.dropWhile (· == '0')).reverse with
        | [] => whole
        | shown => whole ++ '.' :: shown)
      (placeValue whole + placeValue fraction / 10 ^ fraction.length) := by
  have hsplit : fraction.rdropWhile (· == '0') ++ fraction.rtakeWhile (· == '0') = fraction :=
    List.rdropWhile_append_rtakeWhile ..
  have hzeros : fraction.rtakeWhile (· == '0') =
      List.replicate (fraction.rtakeWhile (· == '0')).length '0' := by
    refine List.eq_replicate_of_mem fun c hc ↦ ?_
    simpa using List.mem_rtakeWhile_imp hc
  have hdigits : ∀ c ∈ fraction.rdropWhile (· == '0'), c.isDigit = true :=
    fun c hc ↦ hfraction c ((List.rdropWhile_prefix ..).subset hc)
  change DenotesFraction (match fraction.rdropWhile (· == '0') with
        | [] => whole
        | shown => whole ++ '.' :: shown) _
  generalize fraction.rdropWhile (· == '0') = shown at hsplit hdigits ⊢
  rw [hzeros] at hsplit
  generalize (fraction.rtakeWhile (· == '0')).length = n at hsplit
  subst hsplit
  have hvalue : (placeValue (shown ++ List.replicate n '0') : ℚ) /
      10 ^ (shown ++ List.replicate n '0').length = placeValue shown / 10 ^ shown.length := by
    rw [placeValue_append, placeValue_replicate_zero, List.length_append, List.length_replicate,
      pow_add]
    push_cast
    field_simp
    simp
  rw [hvalue]
  cases shown with
  | nil =>
    have hzero : (placeValue [] : ℚ) / 10 ^ 0 = 0 := by simp [placeValue]
    rw [List.length_nil, hzero, add_zero]
    exact .whole hwhole
  | cons c rest => exact .point hwhole ⟨List.cons_ne_nil c rest, hdigits⟩

/-- A decimal is written as a text of its number. -/
theorem Decimal.denotes_positional (d : Decimal) : DenotesFraction d.positional d.value := by
  have hdigits := isNumeral_toDigits d.digits
  have hzeros (n : Nat) : ∀ c ∈ List.replicate n '0', c.isDigit = true := by
    intro c hc
    rw [List.eq_of_mem_replicate hc]
    rfl
  unfold positional
  dsimp only
  split
  · next hexp =>
    obtain ⟨n, hn⟩ := Int.eq_ofNat_of_zero_le hexp
    have htext : IsNumeral (Nat.toDigits 10 d.digits ++ List.replicate n '0') :=
      ⟨List.append_ne_nil_of_left_ne_nil hdigits.1 _,
        List.forall_mem_append.mpr ⟨hdigits.2, hzeros n⟩⟩
    have hvalue :
        (placeValue (Nat.toDigits 10 d.digits ++ List.replicate n '0') : ℚ) = d.value := by
      rw [placeValue_append, placeValue_toDigits, placeValue_replicate_zero, List.length_replicate,
        value, hn, zpow_natCast]
      push_cast
      rw [add_zero]
    rw [hn, Int.toNat_natCast, ← hvalue]
    exact .whole htext
  · next hexp =>
    obtain ⟨places, hplaces⟩ : ∃ places : Nat, d.exponent = -(places : Int) :=
      ⟨(-d.exponent).toNat, by omega⟩
    have htoNat : (-d.exponent).toNat = places := by omega
    rw [htoNat]
    -- With zeros in front there are more digits than places.
    let padded := List.replicate (places + 1 - (Nat.toDigits 10 d.digits).length) '0' ++
      Nat.toDigits 10 d.digits
    have hlength : places < padded.length := by
      rw [List.length_append, List.length_replicate]
      omega
    have hpadded : ∀ c ∈ padded, c.isDigit = true :=
      List.forall_mem_append.mpr ⟨hzeros _, hdigits.2⟩
    let whole := padded.take (padded.length - places)
    let fraction := padded.drop (padded.length - places)
    have hwhole : IsNumeral whole := by
      refine ⟨List.ne_nil_of_length_pos ?_, fun c hc ↦ hpadded c (List.mem_of_mem_take hc)⟩
      rw [List.length_take]
      omega
    have hfraction : fraction.length = places := by
      rw [List.length_drop]
      omega
    have hvalue :
        (placeValue whole : ℚ) + placeValue fraction / 10 ^ fraction.length = d.value := by
      have hsum : placeValue whole * 10 ^ fraction.length + placeValue fraction = d.digits := by
        rw [← placeValue_append, List.take_append_drop, placeValue_zeros_append,
          placeValue_toDigits]
      rw [hfraction] at hsum ⊢
      rw [value, hplaces, zpow_neg, zpow_natCast, ← hsum]
      push_cast
      field_simp
    rw [← hvalue]
    exact denotes_trimmed hwhole fun c hc ↦ hpadded c (List.mem_of_mem_drop hc)

end SettingsCache.Numeral
