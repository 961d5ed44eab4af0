import SettingsCache.Proofs.Numeral.Positional
import SettingsCache.Proofs.Numeral.Rounding

/-!
# Floating point numbers and their texts

A text in positional notation, with a sign in front or not, is read as the number that it is
rounded to (`read_of_denotes`). What is written for a finite number is such a text, and the decimal
in it is rounded to the number (`denotes_write`), so that the number reads back bit for bit; and so
do the infinities, and what is no number reads back as no number.
-/

namespace SettingsCache.Numeral

/-! ## Decimals that read back -/

/-- The magnitude closest to a decimal is the one that its number is rounded to. -/
theorem Decimal.nearest_eq_iff {d : Decimal} {m : Nat} :
    d.nearest = m ↔ Binary32.Rounds d.value m := by
  rw [← d.num_div_den]
  exact Binary32.nearest_eq_iff d.den_pos

namespace Binary32

variable {m : Nat}

/-- The decimal of a magnitude's exact value has this value. -/
theorem value_exactDecimal (m : Nat) : (exactDecimal m).value = value m := by
  have hexp : (-149 : Int) = -((149 : Nat) : Int) := rfl
  have hten : (10 : ℚ) ^ 149 = 5 ^ 149 * 2 ^ 149 := by
    rw [← mul_pow]
    norm_num
  have hfive : (5 : ℚ) ^ 149 ≠ 0 := by positivity
  unfold Decimal.value exactDecimal value
  rw [hexp, zpow_neg, zpow_natCast, Nat.pow_eq, Nat.cast_mul, Nat.cast_pow, Nat.cast_ofNat, hten,
    ← div_eq_mul_inv, mul_comm (units m : ℚ), mul_div_mul_left _ _ hfive]

/-- A candidate reads back to the magnitude. -/
theorem nearest_of_candidate? {exponent : Int} {d : Decimal}
    (h : candidate? m exponent = some d) : d.nearest = m := by
  unfold candidate? at h
  dsimp only at h
  split at h
  · cases h
  · split at h
    · next hbelow =>
      split at h
      · next habove =>
        cases h
        exact of_decide_eq_true (Bool.and_eq_true_iff.mp habove).1
      · cases h
        exact hbelow
    · split at h
      · next habove =>
        cases h
        exact habove
      · cases h

/-- The shortest decimal reads back to the magnitude. -/
theorem rounds_shortest (h : m ≤ infinity) : Rounds (shortest m).value m := by
  unfold shortest
  cases hfound : exponents.findSome? (candidate? m) with
  | none =>
    rw [Option.getD_none, value_exactDecimal]
    exact .of_value h
  | some d =>
    obtain ⟨exponent, -, hcandidate⟩ := List.exists_of_findSome?_eq_some hfound
    exact Decimal.nearest_eq_iff.mp (nearest_of_candidate? hcandidate)

end Binary32

/-! ## Signs -/

/-- A text stands for a sign and a number in positional notation. -/
inductive DenotesSigned : List Char → Bool → ℚ → Prop
  | plain {text : List Char} {q : ℚ} (h : DenotesFraction text q) : DenotesSigned text false q
  | minus {text : List Char} {q : ℚ} (h : DenotesFraction text q) :
      DenotesSigned ('-' :: text) true q

namespace Binary32

variable {x : Binary32} {m : Nat}

/-- A number is its sign and its magnitude. -/
theorem ofMagnitude_magnitude (x : Binary32) : ofMagnitude x.isNegative x.magnitude = x := by
  obtain ⟨bits⟩ := x
  have hlt : bits.toNat < 2 ^ 32 := bits.toNat_lt
  have hbits : (if isNegative ⟨bits⟩ then signWeight + magnitude ⟨bits⟩ else magnitude ⟨bits⟩) =
      bits.toNat := by
    unfold isNegative magnitude signWeight
    dsimp only
    split
    · next hneg =>
      have hle := of_decide_eq_true hneg
      omega
    · next hpos =>
      have hlt' := Nat.not_le.mp (mt decide_eq_true hpos)
      omega
  unfold ofMagnitude
  rw [hbits, UInt32.ofNat_toNat]

/-- A text in positional notation is read as what its number is rounded to. -/
theorem magnitudeOf?_of_denotes {text : List Char} {q : ℚ} (hdenotes : DenotesFraction text q)
    (hrounds : Rounds q m) : magnitudeOf? text = some m := by
  obtain ⟨d, hdecimal, rfl⟩ := decimalOf?_of_denotes hdenotes
  unfold magnitudeOf?
  rw [hdecimal]
  exact congrArg some (Decimal.nearest_eq_iff.mpr hrounds)

/-- A text in positional notation, behind a minus sign or not, is read as what its number is
rounded to. -/
theorem read_of_denotes {text : String} {negative : Bool} {q : ℚ}
    (hdenotes : DenotesSigned text.toList negative q) (hrounds : Rounds q m) :
    read text = .ok (ofMagnitude negative m) := by
  unfold read
  generalize text.toList = unsigned at hdenotes
  cases hdenotes with
  | minus h =>
    have hmagnitude := magnitudeOf?_of_denotes h hrounds
    dsimp only
    split
    · next heq => cases heq
    · next heq =>
      cases heq
      rw [hmagnitude]
    · next heq => exact absurd (List.cons.inj heq).1 (by decide)
    · next hminus _ => exact absurd rfl (hminus _)
  | plain h =>
    have hmagnitude := magnitudeOf?_of_denotes h hrounds
    obtain ⟨c, rest, rfl, hc⟩ := h.head
    dsimp only
    split
    · next heq => cases heq
    · next heq =>
      cases heq
      exact absurd hc (by decide)
    · next heq =>
      cases heq
      exact absurd hc (by decide)
    · rw [hmagnitude]

/-- What is written for a finite number has its sign, and its magnitude is what the text is rounded
to. -/
theorem denotes_write (h : x.magnitude < infinity) :
    ∃ q, DenotesSigned x.write.toList x.isNegative q ∧ Rounds q x.magnitude := by
  have hfinite : x.isNaN = false := decide_eq_false (Nat.not_lt.mpr h.le)
  have hsigned {digits : List Char} {q : ℚ} (hdigits : DenotesFraction digits q) :
      DenotesSigned ((if x.isNegative then ['-'] else []) ++ digits) x.isNegative q := by
    cases x.isNegative with
    | true => exact .minus hdigits
    | false => exact .plain hdigits
  have hdigits : ∃ q, DenotesFraction
      (if x.magnitude = 0 then ['0'] else (shortest x.magnitude).positional) q ∧
      Rounds q x.magnitude := by
    split
    · next hzero =>
      have htext := DenotesFraction.whole (isNumeral_toDigits 0)
      rw [placeValue_toDigits, Nat.cast_zero, ← value_zero] at htext
      rw [hzero]
      exact ⟨_, htext, .of_value (Nat.zero_le infinity)⟩
    · exact ⟨_, Decimal.denotes_positional _, rounds_shortest h.le⟩
  obtain ⟨q, htext, hrounds⟩ := hdigits
  refine ⟨q, ?_, hrounds⟩
  unfold write
  rw [hfinite, if_neg Bool.false_ne_true]
  dsimp only
  rw [String.toList_ofList, if_neg h.ne]
  exact hsigned htext

/-- A number reads back bit for bit. -/
theorem read_write (h : x.isNaN = false) : read x.write = .ok x := by
  have hle : x.magnitude ≤ infinity := Nat.not_lt.mp (of_decide_eq_false h)
  rcases Nat.lt_or_eq_of_le hle with hfinite | hinfinite
  · obtain ⟨q, hdenotes, hrounds⟩ := denotes_write hfinite
    rw [read_of_denotes hdenotes hrounds, ofMagnitude_magnitude]
  · have hself := ofMagnitude_magnitude x
    rw [hinfinite] at hself
    unfold write
    rw [h, if_neg Bool.false_ne_true, if_pos hinfinite, ← hself]
    cases x.isNegative <;> rfl

/-- What is no number reads back as no number. -/
theorem read_write_of_isNaN (h : x.isNaN = true) : ∃ y, read x.write = .ok y ∧ y.isNaN = true := by
  have hwrite : x.write = "NaN" := if_pos h
  rw [hwrite]
  exact ⟨_, rfl, rfl⟩

end Binary32

end SettingsCache.Numeral
