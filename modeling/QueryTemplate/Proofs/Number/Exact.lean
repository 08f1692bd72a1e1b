import Mathlib.Algebra.Order.Floor.Semifield
import Mathlib.Data.Rat.Floor
import Mathlib.Tactic
import QueryTemplate.Number.Decimal

/-! Numbers as the rationals they stand for. Dropping the fraction of a number, binary or decimal,
is exact whatever its exponent. -/

namespace QueryTemplate.Number

/-- A rational without its fraction: the nearest integer towards zero. -/
def truncated (q : ℚ) : ℤ := if 0 ≤ q then ⌊q⌋ else ⌈q⌉

/-- A magnitude with a sign. -/
def signed (negative : Bool) (m : ℚ) : ℚ := if negative then -m else m

def Scientific.value (x : Scientific) : ℚ := x.coefficient * 10 ^ x.exponent

def Dyadic.value (x : Dyadic) : ℚ := x.mantissa * 2 ^ x.exponent

theorem truncated_intCast (n : ℤ) : truncated n = n := by
  rw [truncated]
  split_ifs
  · exact Int.floor_intCast n
  · exact Int.ceil_intCast n

/-- The sign stands in front of the whole part. -/
theorem truncated_signed (negative : Bool) {m : ℚ} (hm : 0 ≤ m) :
    truncated (signed negative m) = if negative then -(⌊m⌋₊ : ℤ) else ⌊m⌋₊ := by
  have hfloor : (⌊m⌋₊ : ℤ) = ⌊m⌋ := Int.natCast_floor_eq_floor hm
  cases negative with
  | false => rw [signed, truncated, if_neg Bool.false_ne_true, if_pos hm, if_neg Bool.false_ne_true,
      hfloor]
  | true =>
    rw [signed, truncated, if_pos rfl, if_pos rfl, hfloor]
    split_ifs with hneg
    · have hzero : m = 0 := le_antisymm (neg_nonneg.mp hneg) hm
      rw [hzero]
      simp
    · exact Int.ceil_neg

/-- Two magnitudes under one sign lose their fraction to the same integer if no whole number lies
between them, and only then. -/
theorem truncated_signed_eq_iff (negative : Bool) {x y : ℚ} (hx : 0 ≤ x) (hy : 0 ≤ y) :
    truncated (signed negative x) = truncated (signed negative y) ↔
      ∀ n : ℕ, (n : ℚ) ≤ x ↔ (n : ℚ) ≤ y := by
  have hfloor : (∀ n : ℕ, (n : ℚ) ≤ x ↔ (n : ℚ) ≤ y) ↔ ⌊x⌋₊ = ⌊y⌋₊ := by
    simp only [← Nat.le_floor_iff hx, ← Nat.le_floor_iff hy]
    exact ⟨fun h => le_antisymm ((h _).mp le_rfl) ((h _).mpr le_rfl), fun h n => by rw [h]⟩
  rw [truncated_signed negative hx, truncated_signed negative hy, hfloor]
  split_ifs
  · rw [neg_inj, Nat.cast_inj]
  · exact Nat.cast_inj

theorem abs_signed (negative : Bool) {m : ℚ} (hm : 0 ≤ m) : |signed negative m| = m := by
  cases negative with
  | false => exact abs_of_nonneg hm
  | true => exact (abs_neg m).trans (abs_of_nonneg hm)

theorem Scientific.value_nonneg (x : Scientific) : 0 ≤ x.value := by
  unfold Scientific.value
  positivity

theorem Dyadic.value_nonneg (x : Dyadic) : 0 ≤ x.value := by
  unfold Dyadic.value
  positivity

/-- A power with a whole exponent of either sign, as a quotient of whole numbers. -/
theorem mul_zpow_eq_div (n : ℕ) {base : ℕ} (hbase : base ≠ 0) (e : ℤ) :
    (n : ℚ) * (base : ℚ) ^ e = (n * base ^ e.toNat : ℕ) / (base ^ (-e).toNat : ℕ) := by
  have hne : (base : ℚ) ≠ 0 := Nat.cast_ne_zero.mpr hbase
  have hsplit : e = (e.toNat : ℤ) - ((-e).toNat : ℤ) := by omega
  conv_lhs => rw [hsplit, zpow_sub₀ hne, zpow_natCast, zpow_natCast]
  push_cast
  ring

theorem floor_mul_zpow (n : ℕ) {base : ℕ} (hbase : base ≠ 0) (e : ℤ) :
    ⌊(n : ℚ) * (base : ℚ) ^ e⌋₊ = n * base ^ e.toNat / base ^ (-e).toNat := by
  rw [mul_zpow_eq_div n hbase e]
  exact Nat.floor_div_eq_div _ _

/-! ### Binary numbers -/

theorem Dyadic.floor_eq (x : Dyadic) : x.floor = ⌊x.value⌋₊ := by
  have h := floor_mul_zpow x.mantissa (show 2 ≠ 0 by decide) x.exponent
  rw [Nat.cast_ofNat] at h
  rw [Dyadic.value, h]
  rfl

theorem Binary64.truncate?_eq_some_iff (x : Binary64) (n : ℤ) :
    x.truncate? = some n ↔
      ∃ negative m, x = .finite negative m ∧ n = truncated (signed negative m.value) := by
  cases x with
  | nan | infinite => simp [Binary64.truncate?]
  | finite negative m =>
    rw [Binary64.truncate?, Option.some.injEq, Dyadic.floor_eq,
      ← truncated_signed negative m.value_nonneg]
    constructor
    · rintro rfl
      exact ⟨negative, m, rfl, rfl⟩
    · rintro ⟨_, _, ⟨⟩, rfl⟩
      rfl

/-! ### Decimal numbers -/

theorem lt_ten_pow_length_digits (n : ℕ) : n < 10 ^ (digits n).length :=
  (Nat.length_toDigits_le_iff (by decide) (length_digits_pos n)).mp le_rfl

/-- The leading digit of a magnitude bounds it. -/
theorem Scientific.value_lt (x : Scientific) : x.value < 10 ^ (x.adjusted + 1) := by
  have hlt : (x.coefficient : ℚ) < 10 ^ ((digits x.coefficient).length : ℤ) := by
    rw [zpow_natCast]
    exact_mod_cast lt_ten_pow_length_digits x.coefficient
  have hexponent : x.adjusted + 1 = (digits x.coefficient).length + x.exponent := by
    rw [Scientific.adjusted]
    ring
  rw [hexponent, zpow_add₀ (by norm_num), Scientific.value]
  exact mul_lt_mul_of_pos_right hlt (by positivity)

theorem Scientific.floor_eq (x : Scientific) : x.floor = ⌊x.value⌋₊ := by
  have hwhole := floor_mul_zpow x.coefficient (show 10 ≠ 0 by decide) x.exponent
  rw [Nat.cast_ofNat] at hwhole
  unfold Scientific.floor
  split_ifs with hsmall
  · symm
    rw [Nat.floor_eq_zero]
    rw [Bool.or_eq_true, decide_eq_true_iff, decide_eq_true_iff] at hsmall
    rcases hsmall with hzero | hfraction
    · rw [Scientific.value, hzero]
      norm_num
    · calc x.value < 10 ^ (x.adjusted + 1) := x.value_lt
        _ ≤ 1 := zpow_le_one_of_nonpos₀ (by norm_num) (by omega)
  · rw [Scientific.value, hwhole]
    simp only [Nat.pow_eq]

theorem Decimal.eq_of_truncate?_eq_some {x : Decimal} {n : ℤ} (h : x.truncate? = some n) :
    ∃ negative m, x = .finite negative m ∧ n = truncated (signed negative m.value) := by
  cases x with
  | infinite | nan => cases h
  | finite negative m =>
    rw [Decimal.truncate?, Option.ite_none_right_eq_some, Scientific.floor_eq,
      ← truncated_signed negative m.value_nonneg] at h
    exact ⟨negative, m, rfl, (Option.some.inj h.2).symm⟩

end QueryTemplate.Number
