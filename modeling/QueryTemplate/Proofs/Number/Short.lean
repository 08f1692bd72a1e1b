import QueryTemplate.Proofs.Number.Nearest
import QueryTemplate.Proofs.Number.Overflow

/-! Rounding a short decimal. If the digits of a decimal, read without their point, make a whole
number below `2 ^ 53`, no whole number lies between the decimal and the binary number nearest to it.
So fifteen digits keep their whole part. -/

namespace QueryTemplate.Number

/-- The digits, read without a point, make a number of 53 bits at most. -/
def Scientific.IsShort (x : Scientific) : Prop := x.coefficient * 10 ^ x.exponent.toNat < 2 ^ 53

namespace Dyadic

/-- Whole numbers up to `2 ^ 53` are binary numbers. -/
theorem exists_value_eq {n : ℕ} (hn : n ≤ 2 ^ 53) : ∃ y : Dyadic, y.value = n := by
  by_cases hzero : n = 0
  · exact ⟨⟨0, -1074, by decide⟩, by rw [value, hzero, Nat.cast_zero, zero_mul]⟩
  by_cases htop : n = 2 ^ 53
  · refine ⟨⟨2 ^ 52, 1, by decide⟩, ?_⟩
    rw [value, htop, zpow_one]
    norm_num
  have hlog : n.log2 < 53 := (Nat.log2_lt hzero).mpr (by omega)
  have hlow := Binary64.le_leadingBits hzero 52
  have hhigh := Binary64.leadingBits_lt n 52
  have hshift : n.log2 - 52 = 0 := by omega
  rw [hshift, pow_zero, Nat.div_one] at hlow hhigh
  refine ⟨⟨n * 2 ^ (52 - n.log2), -((52 - n.log2 : ℕ) : ℤ), hhigh, by omega, by omega,
    Or.inl hlow⟩, ?_⟩
  simp only [value]
  rw [zpow_neg, zpow_natCast, Nat.cast_mul, Nat.cast_pow, Nat.cast_ofNat,
    mul_inv_cancel_right₀ (by positivity)]

theorem least_lt_of_one_le {x : Dyadic} (hx : 1 ≤ x.value) : -1074 < x.exponent := by
  obtain ⟨hm, hleast, -⟩ := x.isCanonical
  by_contra hlast
  have hexponent : x.exponent = -1074 := by omega
  have hsmall : x.value < 1 := by
    calc x.value < 2 ^ 53 * 2 ^ (-1074 : ℤ) := by
          rw [value, hexponent]
          gcongr
          exact_mod_cast hm
      _ ≤ 1 := by
          rw [← zpow_natCast, ← zpow_add₀ two_ne_zero]
          exact zpow_le_one_of_nonpos₀ one_le_two (by norm_num)
  exact absurd hx (not_le.mpr hsmall)

/-- What is rounded up lies in the upper half of the step below the nearest number. -/
theorem IsNearest.upper_half {x z : Dyadic} {v : ℚ} (h : x.IsNearest v) (hlt : v < x.value)
    (hz : z.value + 2 ^ z.exponent = x.value) :
    z.value ≤ v ∧ 2 * (x.value - v) ≤ 2 ^ z.exponent := by
  have hstep : (0 : ℚ) < 2 ^ z.exponent := by positivity
  have hnear := h.le z
  rw [abs_of_pos (sub_pos.mpr hlt)] at hnear
  have hbelow : z.value ≤ v := by
    by_contra hgt
    rw [abs_of_pos (sub_pos.mpr (not_le.mp hgt))] at hnear
    linarith
  rw [abs_sub_comm, abs_of_nonneg (sub_nonneg.mpr hbelow)] at hnear
  exact ⟨hbelow, by linarith⟩

/-- A whole number is no nearer to a decimal than a unit of the last digit. -/
theorem one_le_sub_mul_pow {v : ℚ} {n k whole : ℕ} (hn : v * 10 ^ k = n) (hwhole : v < whole) :
    1 ≤ (whole - v) * 10 ^ k := by
  have hgap : (n : ℚ) < (whole * 10 ^ k : ℕ) := by
    rw [← hn, Nat.cast_mul, Nat.cast_pow, Nat.cast_ofNat]
    exact mul_lt_mul_of_pos_right hwhole (by positivity)
  have hnext : (n : ℚ) + 1 ≤ (whole * 10 ^ k : ℕ) := by exact_mod_cast hgap
  rw [Nat.cast_mul, Nat.cast_pow, Nat.cast_ofNat] at hnext
  rw [sub_mul, hn]
  linarith

/-- What rounds up to a whole number, or past it, rounds to that whole number. -/
theorem IsNearest.eq_whole {x : Dyadic} {v : ℚ} (h : x.IsNearest v) {whole : ℕ}
    (hwhole : v < whole) (hle : whole ≤ 2 ^ 53) (hx : whole ≤ x.value) : x.value = whole := by
  obtain ⟨y, hy⟩ := exists_value_eq hle
  refine le_antisymm ?_ hx
  have hnear := h.le y
  rw [hy, abs_of_pos (sub_pos.mpr hwhole)] at hnear
  linarith [le_abs_self (x.value - v)]

/-- No whole number lies above a short decimal and not above the number nearest to it. The least one
there would be the nearest number itself, and the decimal would lie in the upper half of the step
below it; there decimals have more digits. -/
theorem IsNearest.lt_of_short {x : Dyadic} {v : ℚ} (h : x.IsNearest v) (hv : 0 ≤ v) {n k : ℕ}
    (hn : v * 10 ^ k = n) (hshort : n < 2 ^ 53) {whole : ℕ} (hwhole : v < whole)
    (hle : whole ≤ 2 ^ 53) : x.value < whole := by
  by_contra hge
  have hx : x.value = whole := h.eq_whole hwhole hle (not_lt.mp hge)
  have hone : 1 ≤ x.value := by
    have hpos : 0 < whole := by exact_mod_cast hv.trans_lt hwhole
    rw [hx]
    exact_mod_cast hpos
  have hzero : x.mantissa ≠ 0 := by
    intro h
    rw [value, h, Nat.cast_zero, zero_mul] at hone
    exact absurd hone (by norm_num)
  obtain ⟨z, hz, -, hlead⟩ := exists_pred hzero
  obtain ⟨hbelow, hhalf⟩ := h.upper_half (by rw [hx]; exact hwhole) hz
  have hbits : 2 ^ 52 * (2 : ℚ) ^ z.exponent ≤ v := by
    refine le_trans ?_ hbelow
    rw [value]
    gcongr
    exact_mod_cast hlead (least_lt_of_one_le hone)
  have hunit : 1 ≤ (x.value - v) * 10 ^ k := by
    rw [hx]
    exact one_le_sub_mul_pow hn hwhole
  have hlong : (2 : ℚ) ^ 53 ≤ n := by
    calc (2 : ℚ) ^ 53 ≤ 2 ^ 53 * ((x.value - v) * 10 ^ k) :=
          le_mul_of_one_le_right (by positivity) hunit
      _ = 2 ^ 52 * (2 * (x.value - v)) * 10 ^ k := by ring
      _ ≤ 2 ^ 52 * 2 ^ z.exponent * 10 ^ k := by gcongr
      _ ≤ v * 10 ^ k := by gcongr
      _ = n := hn
  exact absurd hshort (not_lt.mpr (by exact_mod_cast hlong))

/-- No whole number lies below a short decimal, or at it, and above the number nearest to it: it
would be nearer. -/
theorem IsNearest.le_of_short {x : Dyadic} {v : ℚ} (h : x.IsNearest v) {whole : ℕ}
    (hwhole : (whole : ℚ) ≤ v) (hle : whole ≤ 2 ^ 53) : (whole : ℚ) ≤ x.value := by
  by_contra hlt
  obtain ⟨y, hy⟩ := exists_value_eq hle
  have hnear := h.le y
  rw [hy, abs_sub_comm, abs_sub_comm (whole : ℚ), abs_of_nonneg (sub_nonneg.mpr hwhole)] at hnear
  linarith [le_abs_self (v - x.value)]

/-- The whole part of a short decimal is the whole part of the number nearest to it. -/
theorem IsNearest.floor_eq_of_isShort {x : Dyadic} {m : Scientific} (h : x.IsNearest m.value)
    (hshort : m.IsShort) : ⌊x.value⌋₊ = ⌊m.value⌋₊ := by
  have hvalue := m.value_nonneg
  have hdigits :
      m.value * 10 ^ (-m.exponent).toNat = (m.coefficient * 10 ^ m.exponent.toNat : ℕ) := by
    have hratio := mul_zpow_eq_div m.coefficient (show 10 ≠ 0 by decide) m.exponent
    rw [Nat.cast_ofNat] at hratio
    rw [Scientific.value, hratio, Nat.cast_pow, Nat.cast_ofNat, div_mul_cancel₀ _ (by positivity)]
  have hbound : ⌊m.value⌋₊ < 2 ^ 53 := by
    refine (Nat.floor_le_of_le ?_).trans_lt hshort
    rw [← hdigits]
    exact le_mul_of_one_le_right hvalue (one_le_pow₀ (by norm_num))
  rw [Nat.floor_eq_iff x.value_nonneg]
  constructor
  · exact h.le_of_short (Nat.floor_le hvalue) hbound.le
  · exact_mod_cast h.lt_of_short hvalue hdigits hshort (Nat.lt_succ_floor m.value) hbound

end Dyadic

end QueryTemplate.Number
