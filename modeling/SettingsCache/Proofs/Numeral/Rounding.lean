import Mathlib.Algebra.Order.Field.Rat
import Mathlib.Data.Nat.Cast.Order.Field
import Mathlib.Order.Monotone.Basic
import Mathlib.Tactic.FieldSimp
import Mathlib.Tactic.Linarith
import Mathlib.Tactic.Positivity
import SettingsCache.Numeral.Binary32

/-!
# Rounding to floating point

From one power of two to the next the values of the magnitudes are in equal steps, and magnitudes
are in the order of their values. A number is rounded to the magnitude whose value is closest to it
and, if two are as close, to the even one of them (`Rounds`): there is only one such magnitude, and
it is the one that `nearest` finds for a fraction (`nearest_eq_iff`).
-/

namespace SettingsCache.Numeral.Binary32

/-! ## Values -/

/-- Magnitudes are in steps of `2 ^ scale` units from one power of two to the next. -/
theorem units_steps {scale steps : Nat} (hlow : scale = 0 ∨ 2 ^ 23 ≤ steps)
    (hhigh : steps ≤ 2 ^ 24) : units (scale * 2 ^ 23 + steps) = steps * 2 ^ scale := by
  unfold units
  simp only [Nat.pow_eq]
  rcases Nat.lt_trichotomy steps (2 ^ 23) with hsub | rfl | hmid
  · -- The exponent is that of the numbers next to zero.
    obtain rfl : scale = 0 := hlow.resolve_right (Nat.not_le.mpr hsub)
    rw [Nat.zero_mul, Nat.zero_add, Nat.div_eq_of_lt hsub, Nat.mod_eq_of_lt hsub, if_pos rfl,
      Nat.pow_zero, Nat.mul_one]
  · have hdiv : (scale * 2 ^ 23 + 2 ^ 23) / 2 ^ 23 = scale + 1 := by omega
    have hmod : (scale * 2 ^ 23 + 2 ^ 23) % 2 ^ 23 = 0 := by omega
    rw [hdiv, hmod, if_neg (Nat.succ_ne_zero scale), Nat.add_zero, Nat.add_sub_cancel]
  · rcases Nat.lt_or_eq_of_le hhigh with hbelow | rfl
    · have hdiv : (scale * 2 ^ 23 + steps) / 2 ^ 23 = scale + 1 := by omega
      have hmod : 2 ^ 23 + (scale * 2 ^ 23 + steps) % 2 ^ 23 = steps := by omega
      rw [hdiv, hmod, if_neg (Nat.succ_ne_zero scale), Nat.add_sub_cancel]
    · have hdiv : (scale * 2 ^ 23 + 2 ^ 24) / 2 ^ 23 = scale + 2 := by omega
      have hmod : (scale * 2 ^ 23 + 2 ^ 24) % 2 ^ 23 = 0 := by omega
      have hexp : scale + 2 - 1 = scale + 1 := rfl
      rw [hdiv, hmod, if_neg (Nat.succ_ne_zero (scale + 1)), hexp, Nat.pow_succ]
      omega

/-- Every magnitude is a number of steps. -/
theorem exists_steps (m : Nat) : ∃ scale steps,
    (scale = 0 ∨ 2 ^ 23 ≤ steps) ∧ steps < 2 ^ 24 ∧ m = scale * 2 ^ 23 + steps := by
  refine ⟨m / 2 ^ 23 - 1, m - (m / 2 ^ 23 - 1) * 2 ^ 23, ?_, ?_, ?_⟩ <;> omega

/-- Magnitudes are in the order of their values. -/
theorem units_strictMono : StrictMono units := by
  refine strictMono_nat_of_lt_succ fun m ↦ ?_
  obtain ⟨scale, steps, hlow, hhigh, rfl⟩ := exists_steps m
  rw [units_steps hlow (Nat.le_of_lt hhigh), Nat.add_assoc,
    units_steps (hlow.imp_right Nat.le_succ_of_le) hhigh]
  exact Nat.mul_lt_mul_of_pos_right (Nat.lt_succ_self steps) (Nat.two_pow_pos scale)

/-- The value of a magnitude. Infinity counts as the number that would follow the last one. -/
def value (m : Nat) : ℚ := units m / 2 ^ 149

theorem value_strictMono : StrictMono value := by
  intro m n h
  have hunits : (units m : ℚ) < units n := Nat.cast_lt.mpr (units_strictMono h)
  exact div_lt_div_of_pos_right hunits (by positivity)

theorem value_zero : value 0 = 0 := by
  simp [value, units]

/-! ## Rounding -/

/-- A magnitude that a number is rounded to, to nearest and ties to even: no other is closer, and if
another is as close then this one is even. -/
structure Rounds (q : ℚ) (m : Nat) : Prop where
  le : m ≤ infinity
  closest : ∀ n ≤ infinity, |q - value m| ≤ |q - value n|
  even : ∀ n ≤ infinity, n ≠ m → |q - value n| = |q - value m| → m % 2 = 0

namespace Rounds

variable {q : ℚ} {m n : Nat}

/-- A value is rounded to its own magnitude. -/
theorem of_value (h : m ≤ infinity) : Rounds (value m) m := by
  refine ⟨h, fun n _ ↦ ?_, fun n _ hne hsame ↦ ?_⟩
  · rw [sub_self, abs_zero]
    exact abs_nonneg _
  · rw [sub_self, abs_zero, abs_eq_zero, sub_eq_zero] at hsame
    exact absurd (value_strictMono.injective hsame).symm hne

/-- A number is rounded to one magnitude only: between two even ones there is a closer one. -/
theorem not_lt (hm : Rounds q m) (hn : Rounds q n) : ¬ m < n := by
  intro hlt
  have hsame : |q - value m| = |q - value n| :=
    le_antisymm (hm.closest n hn.le) (hn.closest m hm.le)
  have hmeven := hm.even n hn.le hlt.ne' hsame.symm
  have hneven := hn.even m hm.le hlt.ne hsame
  have hle := hm.closest (m + 1) (Nat.le_trans hlt hn.le)
  have hbelow : value m < value (m + 1) := value_strictMono (Nat.lt_succ_self m)
  have habove : value (m + 1) < value n := value_strictMono (by omega)
  rcases abs_eq_abs.mp hsame with heq | heq
  · linarith
  · have hpos : 0 < q - value m := by linarith
    have hcloser : |q - value (m + 1)| < |q - value m| := by
      rw [abs_of_pos hpos]
      exact abs_lt.mpr ⟨by linarith, by linarith⟩
    exact absurd hle (not_le.mpr hcloser)

theorem unique (hm : Rounds q m) (hn : Rounds q n) : m = n :=
  Nat.le_antisymm (Nat.not_lt.mp (hn.not_lt hm)) (Nat.not_lt.mp (hm.not_lt hn))

/-- From where infinity would be, numbers are rounded to infinity. -/
theorem of_infinity_le (h : value infinity ≤ q) : Rounds q infinity := by
  refine ⟨Nat.le_refl infinity, fun n hn ↦ ?_, fun _ _ _ _ ↦ rfl⟩
  have hle : value n ≤ value infinity := value_strictMono.monotone hn
  rw [abs_of_nonneg (sub_nonneg.mpr h), abs_of_nonneg (sub_nonneg.mpr (hle.trans h))]
  linarith

/-- All magnitudes but the two neighbours of a number are farther from it than one of these. -/
theorem neighbour_or_farther {low : Nat} (hlow : value low ≤ q) (hhigh : q ≤ value (low + 1))
    (n : Nat) : n = low ∨ n = low + 1 ∨ |q - value low| < |q - value n| ∨
      |q - value (low + 1)| < |q - value n| := by
  rcases Nat.lt_trichotomy n low with hlt | rfl | hgt
  · have hvalue := value_strictMono hlt
    rw [abs_of_nonneg (sub_nonneg.mpr hlow), abs_of_pos (by linarith)]
    exact .inr (.inr (.inl (by linarith)))
  · exact .inl rfl
  · rcases Nat.eq_or_lt_of_le (Nat.succ_le_of_lt hgt) with rfl | hgt
    · exact .inr (.inl rfl)
    · have hvalue : value (low + 1) < value n := value_strictMono hgt
      have hdist : |q - value n| = value n - q := by
        rw [abs_sub_comm, abs_of_pos (by linarith)]
      rw [abs_sub_comm q (value (low + 1)), abs_of_nonneg (sub_nonneg.mpr hhigh), hdist]
      exact .inr (.inr (.inr (by linarith)))

/-- The closer neighbour of a number is rounded to, the even one if both are as close, and infinity
instead of all past it. -/
theorem of_neighbours {low : Nat} (hlow : value low ≤ q) (hhigh : q ≤ value (low + 1))
    (hneighbour : m = low ∨ m = low + 1) (hleft : |q - value m| ≤ |q - value low|)
    (hright : |q - value m| ≤ |q - value (low + 1)|)
    (htie : |q - value low| = |q - value (low + 1)| → m % 2 = 0) :
    Rounds q (min m infinity) := by
  rcases Nat.lt_or_ge infinity m with hpast | hwithin
  · rw [Nat.min_eq_right (Nat.le_of_lt hpast)]
    have hle : infinity ≤ low := by omega
    exact of_infinity_le ((value_strictMono.monotone hle).trans hlow)
  · rw [Nat.min_eq_left hwithin]
    refine ⟨hwithin, fun n _ ↦ ?_, fun n _ hne hsame ↦ ?_⟩
    · rcases neighbour_or_farther hlow hhigh n with rfl | rfl | hfar | hfar
      · exact hleft
      · exact hright
      · exact hleft.trans hfar.le
      · exact hright.trans hfar.le
    · rcases neighbour_or_farther hlow hhigh n with rfl | rfl | hfar | hfar
      · rcases hneighbour with rfl | rfl
        · exact absurd rfl hne
        · exact htie hsame
      · rcases hneighbour with rfl | rfl
        · exact htie hsame.symm
        · exact absurd rfl hne
      · exact absurd (hsame ▸ hleft) (not_le.mpr hfar)
      · exact absurd (hsame ▸ hright) (not_le.mpr hfar)

end Rounds

/-! ## The nearest number -/

section Fraction

variable {num den : Nat}

/-- A fraction as its whole part and the rest. -/
theorem fraction_eq (hden : 0 < den) :
    (num : ℚ) / den = (num / den : Nat) + (num % den : Nat) / (den : ℚ) := by
  have hpos : (0 : ℚ) < den := Nat.cast_pos.mpr hden
  have hsum : (num : ℚ) = den * (num / den : Nat) + (num % den : Nat) := by
    exact_mod_cast (Nat.div_add_mod num den).symm
  rw [div_eq_iff hpos.ne', add_mul, div_mul_cancel₀ _ hpos.ne', mul_comm]
  exact hsum

/-- The whole numbers next to a fraction, and which of them it is rounded to. -/
theorem roundHalfEven_spec (hden : 0 < den) :
    let x : ℚ := num / den
    let low := num / den
    let m := roundHalfEven num den
    (low ≤ x ∧ x ≤ low + 1) ∧ (m = low ∨ m = low + 1) ∧ |x - m| ≤ |x - low| ∧
      |x - m| ≤ |x - (low + 1 : Nat)| ∧ (|x - low| = |x - (low + 1 : Nat)| → m % 2 = 0) := by
  intro x low m
  have hpos : (0 : ℚ) < den := Nat.cast_pos.mpr hden
  have hnext : ((low + 1 : Nat) : ℚ) = low + 1 := Nat.cast_succ low
  let rest : ℚ := (num % den : Nat) / (den : ℚ)
  have hx : x = low + rest := fraction_eq hden
  have hrest : 0 ≤ rest ∧ rest < 1 := by
    refine ⟨by positivity, (div_lt_one hpos).mpr ?_⟩
    exact Nat.cast_lt.mpr (Nat.mod_lt num hden)
  have hlow : |x - low| = rest := by
    rw [hx, add_sub_cancel_left, abs_of_nonneg hrest.1]
  have hhigh : |x - (low + 1 : Nat)| = 1 - rest := by
    rw [hx, hnext, abs_sub_comm, abs_of_nonneg (by linarith), add_sub_add_left_eq_sub]
  -- How the rest compares to a half.
  have hless : 2 * (num % den) < den ↔ 2 * rest < 1 := by
    rw [← mul_div_assoc, div_lt_one hpos]
    exact_mod_cast Iff.rfl
  have hmore : den < 2 * (num % den) ↔ 1 < 2 * rest := by
    rw [← mul_div_assoc, one_lt_div hpos]
    exact_mod_cast Iff.rfl
  have hchosen : (2 * rest < 1 ∧ m = low) ∨ (1 < 2 * rest ∧ m = low + 1) ∨
      (2 * rest = 1 ∧ m = low + low % 2) := by
    by_cases hl : 2 * (num % den) < den
    · exact .inl ⟨hless.mp hl, if_pos hl⟩
    · by_cases hm : den < 2 * (num % den)
      · exact .inr (.inl ⟨hmore.mp hm, (if_neg hl).trans (if_pos hm)⟩)
      · refine .inr (.inr ⟨?_, (if_neg hl).trans (if_neg hm)⟩)
        exact le_antisymm (not_lt.mp (mt hmore.mpr hm)) (not_lt.mp (mt hless.mpr hl))
  rw [hlow, hhigh]
  refine ⟨⟨by linarith, by linarith⟩, ?_⟩
  rcases hchosen with ⟨hhalf, hm⟩ | ⟨hhalf, hm⟩ | ⟨hhalf, hm⟩
  · rw [hm, hlow]
    exact ⟨.inl rfl, le_refl rest, by linarith, fun h ↦ absurd h (by linarith)⟩
  · rw [hm, hhigh]
    exact ⟨.inr rfl, by linarith, le_refl _, fun h ↦ absurd h (by linarith)⟩
  · have hm' : m = low ∨ m = low + 1 := by omega
    have hdist : |x - m| = rest := by
      rcases hm' with h | h
      · rw [h, hlow]
      · rw [h, hhigh]
        linarith
    rw [hdist]
    exact ⟨hm', le_refl rest, by linarith, fun _ ↦ by omega⟩

/-- The scale is chosen such that the whole part is a number of steps. -/
theorem log2_steps (whole : Nat) :
    (Nat.log2 whole - 23 = 0 ∨ 2 ^ 23 ≤ whole / 2 ^ (Nat.log2 whole - 23)) ∧
      whole / 2 ^ (Nat.log2 whole - 23) < 2 ^ 24 := by
  have hpos := Nat.two_pow_pos (Nat.log2 whole - 23)
  have hlt : whole < 2 ^ (Nat.log2 whole + 1) := Nat.lt_log2_self
  rw [Nat.div_lt_iff_lt_mul hpos, Nat.le_div_iff_mul_le hpos, ← Nat.pow_add, ← Nat.pow_add]
  rcases Nat.lt_or_ge 23 (Nat.log2 whole) with hbig | hsmall
  · have hne : whole ≠ 0 := by
      rintro rfl
      exact absurd hbig (by decide)
    have hle := Nat.log2_self_le hne
    have hexp : 23 + (Nat.log2 whole - 23) = Nat.log2 whole := by omega
    have hexp' : 24 + (Nat.log2 whole - 23) = Nat.log2 whole + 1 := by omega
    rw [hexp, hexp']
    exact ⟨.inr hle, hlt⟩
  · have hexp : Nat.log2 whole - 23 = 0 := by omega
    rw [hexp]
    exact ⟨.inl rfl, hlt.trans_le (Nat.pow_le_pow_right (by decide) (by omega))⟩

/-- The magnitude that is computed is the one that a fraction is rounded to. -/
theorem rounds_nearest (hden : 0 < den) : Rounds (num / den) (nearest num den) := by
  let scaled := num * 2 ^ 149
  let scale := Nat.log2 (scaled / den) - 23
  let low := scaled / (den * 2 ^ scale)
  let m := roundHalfEven scaled (den * 2 ^ scale)
  have hnearest : nearest num den = min (scale * 2 ^ 23 + m) infinity := rfl
  have hden' : 0 < den * 2 ^ scale := Nat.mul_pos hden (Nat.two_pow_pos scale)
  have hsteps : (scale = 0 ∨ 2 ^ 23 ≤ low) ∧ low < 2 ^ 24 := by
    have h := log2_steps (scaled / den)
    rwa [Nat.div_div_eq_div_mul] at h
  obtain ⟨⟨hlow, hhigh⟩, hneighbour, hleft, hright, htie⟩ :=
    @roundHalfEven_spec scaled _ hden'
  -- The step from one of the magnitudes to the next.
  let step : ℚ := 2 ^ scale / 2 ^ 149
  have hstep : 0 < step := by positivity
  have hvalue {n : Nat} (hn : n = low ∨ n = low + 1) :
      value (scale * 2 ^ 23 + n) = n * step := by
    have hn' : (scale = 0 ∨ 2 ^ 23 ≤ n) ∧ n ≤ 2 ^ 24 := by omega
    unfold value
    rw [units_steps hn'.1 hn'.2, Nat.cast_mul, Nat.cast_pow, mul_div_assoc]
    rfl
  have hq : (num : ℚ) / den = (scaled : ℚ) / (den * 2 ^ scale : Nat) * step := by
    have hpos : (0 : ℚ) < den := Nat.cast_pos.mpr hden
    unfold scaled step
    push_cast
    field_simp
    norm_num
  have hdist {n : Nat} (hn : n = low ∨ n = low + 1) :
      |(num : ℚ) / den - value (scale * 2 ^ 23 + n)| =
        |(scaled : ℚ) / (den * 2 ^ scale : Nat) - n| * step := by
    rw [hq, hvalue hn, ← sub_mul, abs_mul, abs_of_pos hstep]
  rw [hnearest]
  have hbelow : value (scale * 2 ^ 23 + low) ≤ num / den := by
    rw [hq, hvalue (.inl rfl)]
    exact mul_le_mul_of_nonneg_right hlow hstep.le
  have habove : (num : ℚ) / den ≤ value (scale * 2 ^ 23 + low + 1) := by
    rw [hq, Nat.add_assoc, hvalue (.inr rfl), Nat.cast_succ]
    exact mul_le_mul_of_nonneg_right hhigh hstep.le
  refine Rounds.of_neighbours hbelow habove ?_ ?_ ?_ ?_
  · rw [Nat.add_assoc, Nat.add_left_cancel_iff, Nat.add_left_cancel_iff]
    exact hneighbour
  · rw [hdist hneighbour, hdist (.inl rfl)]
    exact mul_le_mul_of_nonneg_right hleft hstep.le
  · rw [Nat.add_assoc, hdist hneighbour, hdist (.inr rfl)]
    exact mul_le_mul_of_nonneg_right hright hstep.le
  · rw [Nat.add_assoc, hdist (.inl rfl), hdist (.inr rfl), mul_left_inj' hstep.ne']
    intro hsame
    have heven : m % 2 = 0 := htie hsame
    omega

/-- A magnitude is the nearest to a fraction just if the fraction is rounded to it. -/
theorem nearest_eq_iff (hden : 0 < den) {m : Nat} : nearest num den = m ↔ Rounds (num / den) m := by
  constructor
  · rintro rfl
    exact rounds_nearest hden
  · exact fun h ↦ (rounds_nearest hden).unique h

end Fraction

end SettingsCache.Numeral.Binary32
