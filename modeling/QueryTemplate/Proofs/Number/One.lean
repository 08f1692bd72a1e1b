import Mathlib.Tactic
import QueryTemplate.Number.Magnitude

/-! The number one among binary numbers. Normal forms are unique, so of all mantissas and exponents
only those of one have its size; no other number equals the integer one. -/

namespace QueryTemplate.Number

theorem eq_of_isCanonical_of_eq_one {m : Nat} {e : Int} (h : IsCanonical m e)
    (hone : m * 2 ^ e.toNat = 2 ^ (-e).toNat) : m = 2 ^ 52 ∧ e = -52 := by
  obtain ⟨hlt, -, -, hnormal⟩ := h
  simp only [Nat.pow_eq] at hlt hnormal
  rcases le_or_gt 0 e with hwhole | hfraction
  · have hshift : (-e).toNat = 0 := by omega
    rw [hshift, pow_zero] at hone
    have hm : m = 1 := Nat.eq_one_of_mul_eq_one_right hone
    omega
  · have hshift : e.toNat = 0 := by omega
    rw [hshift, pow_zero, Nat.mul_one] at hone
    have hupper : (-e).toNat < 53 := by
      rw [hone] at hlt
      exact (Nat.pow_lt_pow_iff_right (by decide)).mp hlt
    have hlower : 52 ≤ (-e).toNat := by
      rw [hone] at hnormal
      rcases hnormal with hleading | hleast
      · exact (Nat.pow_le_pow_iff_right (by decide)).mp hleading
      · omega
    have he : (-e).toNat = 52 := by omega
    rw [he] at hone
    exact ⟨hone, by omega⟩

namespace Binary64

theorem ofInt_one : ofInt 1 = .finite false ⟨2 ^ 52, -52, by decide⟩ := by decide +kernel

/-- A finite number of the size of one is one. -/
theorem same_one_iff (negative : Bool) (x : Dyadic) :
    Signed.same (negative, .ratio x.ratio.1 x.ratio.2) (intSize 1) = true ↔
      finite negative x = ofInt 1 := by
  obtain ⟨m, e, hcanonical⟩ := x
  have hratio : Signed.same (negative, .ratio (m * 2 ^ e.toNat) (2 ^ (-e).toNat)) (intSize 1) =
      true ↔ m * 2 ^ e.toNat = 2 ^ (-e).toNat ∧ negative = false := by
    have hpos : 0 < 2 ^ (-e).toNat := by positivity
    simp only [Signed.same, Magnitude.same, Magnitude.isZero, intSize, Bool.and_eq_true,
      Bool.or_eq_true, decide_eq_true_eq, beq_iff_eq]
    simp only [Int.natAbs_one, Nat.mul_one, Nat.one_mul]
    constructor
    · rintro ⟨hsize, hsign | hzero⟩
      · exact ⟨hsize, hsign⟩
      · omega
    · rintro ⟨hsize, hsign⟩
      exact ⟨hsize, Or.inl hsign⟩
  rw [ofInt_one]
  refine hratio.trans ?_
  simp only [finite.injEq, Dyadic.mk.injEq]
  constructor
  · rintro ⟨hsize, hsign⟩
    exact ⟨hsign, eq_of_isCanonical_of_eq_one hcanonical hsize⟩
  · rintro ⟨hsign, rfl, rfl⟩
    exact ⟨by decide, hsign⟩

end Binary64

end QueryTemplate.Number
