import Mathlib.Tactic
import QueryTemplate.Number.Binary64

/-! Which integers have no binary number. An integer with 53 bits at most is taken in as it is, a
longer one is rounded to its first 53 bits. The greatest binary number is `(2 ^ 53 - 1) * 2 ^ 971`;
its mantissa is odd, so from the middle between it and `2 ^ 1024` on everything is infinite. -/

namespace QueryTemplate.Number

/-! ### Rounding a quotient -/

theorem div_le_divHalfEven (num den : Nat) : num / den ≤ divHalfEven num den := by
  unfold divHalfEven
  dsimp only
  split_ifs <;> omega

theorem divHalfEven_le (num den : Nat) : divHalfEven num den ≤ num / den + 1 := by
  unfold divHalfEven
  dsimp only
  split_ifs <;> omega

/-- The step above an odd number is reached from the middle on. -/
theorem lt_divHalfEven_iff (num : Nat) {den m : Nat} (hden : 0 < den) (hodd : m % 2 = 1) :
    m < divHalfEven num den ↔ (2 * m + 1) * den ≤ 2 * num := by
  have hdiv := Nat.div_add_mod num den
  have hmod := Nat.mod_lt num hden
  have hmiddle : (2 * m + 1) * den = 2 * (den * m) + den := by ring
  have hvalue : divHalfEven num den = num / den ∨ divHalfEven num den = num / den + 1 := by
    have hlow := div_le_divHalfEven num den
    have hhigh := divHalfEven_le num den
    omega
  rcases lt_trichotomy (num / den) m with hlt | rfl | hgt
  · have hstep : den * (num / den + 1) ≤ den * m := Nat.mul_le_mul_left den hlt
    rw [Nat.mul_add, Nat.mul_one] at hstep
    omega
  · have hup : divHalfEven num den = num / den + 1 ↔ den ≤ 2 * (num % den) := by
      unfold divHalfEven
      dsimp only
      simp only [Bool.or_eq_true, Bool.and_eq_true, decide_eq_true_eq]
      split_ifs <;> omega
    omega
  · have hstep : den * (m + 1) ≤ den * (num / den) := Nat.mul_le_mul_left den hgt
    rw [Nat.mul_add, Nat.mul_one] at hstep
    omega

namespace Binary64

/-! ### The leading bits of an integer -/

theorem le_leadingBits {n : Nat} (hn : n ≠ 0) (k : Nat) :
    2 ^ k ≤ n * 2 ^ (k - n.log2) / 2 ^ (n.log2 - k) := by
  rw [Nat.le_div_iff_mul_le (by positivity), ← pow_add]
  calc 2 ^ (k + (n.log2 - k)) = 2 ^ n.log2 * 2 ^ (k - n.log2) := by
        rw [← pow_add]
        congr 1
        omega
    _ ≤ n * 2 ^ (k - n.log2) := Nat.mul_le_mul_right _ (Nat.log2_self_le hn)

theorem leadingBits_lt (n k : Nat) : n * 2 ^ (k - n.log2) / 2 ^ (n.log2 - k) < 2 ^ (k + 1) := by
  rw [Nat.div_lt_iff_lt_mul (by positivity), ← pow_add]
  calc n * 2 ^ (k - n.log2) < 2 ^ (n.log2 + 1) * 2 ^ (k - n.log2) :=
        Nat.mul_lt_mul_of_pos_right Nat.lt_log2_self (by positivity)
    _ = 2 ^ (k + 1 + (n.log2 - k)) := by
        rw [← pow_add]
        congr 1
        omega

/-- An integer is rounded to its first 53 bits, and filled up to as many if it has fewer. -/
theorem roundRatio_one {n : Nat} (hn : n ≠ 0) :
    roundRatio n 1 =
      let mantissa := divHalfEven (n * 2 ^ (52 - n.log2)) (2 ^ (n.log2 - 52))
      if mantissa = 2 ^ 53 then (2 ^ 52, (n.log2 : Int) - 51)
      else (mantissa, (n.log2 : Int) - 52) := by
  have hlow : max (-1074) ((n.log2 : Int) - ((1 : Nat).log2 : Int) - 53) = (n.log2 : Int) - 53 := by
    have hone : (1 : Nat).log2 = 0 := by decide
    rw [hone]
    omega
  have h53 : (-((n.log2 : Int) - 53)).toNat = 53 - n.log2 ∧
      ((n.log2 : Int) - 53).toNat = n.log2 - 53 := by omega
  have h52 : (-((n.log2 : Int) - 52)).toNat = 52 - n.log2 ∧
      ((n.log2 : Int) - 52).toNat = n.log2 - 52 := by omega
  have hbits := le_leadingBits hn 53
  rw [← h53.1, ← h53.2] at hbits
  have hexponent : (n.log2 : Int) - 53 + 1 = (n.log2 : Int) - 52 := by omega
  have hnext : (n.log2 : Int) - 52 + 1 = (n.log2 : Int) - 51 := by omega
  unfold roundRatio
  rw [if_neg hn]
  simp only [hlow, Nat.one_mul, Nat.pow_eq]
  rw [if_pos hbits, hexponent, h52.1, h52.2, hnext]

theorem isFinite_ofParts (negative : Bool) (parts : Nat × Int) :
    (ofParts negative parts).isFinite = decide (IsCanonical parts.1 parts.2) := by
  unfold ofParts
  split_ifs with h
  · exact (decide_eq_true h).symm
  · exact (decide_eq_false h).symm

/-! ### Overflow -/

/-- An integer is infinite if its leading bit is too high, or if it is rounded to the power of two
above the highest place. -/
theorem isCanonical_roundRatio_one_iff {n : Nat} (hn : n ≠ 0) :
    IsCanonical (roundRatio n 1).1 (roundRatio n 1).2 ↔ n.log2 < 1023 ∨
      n.log2 = 1023 ∧ divHalfEven n (2 ^ 971) < 2 ^ 53 := by
  rw [roundRatio_one hn]
  have hlow := (le_leadingBits hn 52).trans (div_le_divHalfEven _ _)
  have hhigh := (divHalfEven_le _ _).trans (leadingBits_lt n 52)
  by_cases hlog : n.log2 = 1023
  · simp only [hlog, Nat.reduceSub, pow_zero, Nat.mul_one, true_and] at hlow hhigh ⊢
    split_ifs with hcarry
    · simp only [IsCanonical, Nat.pow_eq]
      omega
    · simp only [IsCanonical, Nat.pow_eq]
      omega
  · dsimp only
    split_ifs with hcarry
    · simp only [IsCanonical, Nat.pow_eq]
      omega
    · simp only [IsCanonical, Nat.pow_eq]
      omega

/-- An integer is finite up to the middle between the greatest binary number and the next power of
two. -/
theorem isFinite_ofInt_iff (n : Int) :
    (ofInt n).isFinite = true ↔ n.natAbs < 2 ^ 1024 - 2 ^ 970 := by
  have hlast : 2 ^ 971 = 2 ^ 970 * 2 := by rw [← pow_succ]
  have htop : 2 ^ 1023 = 2 ^ 52 * 2 ^ 971 := by rw [← pow_add]
  have hnext : 2 ^ 1024 = 2 ^ 53 * 2 ^ 971 := by rw [← pow_add]
  have hpos : 0 < 2 ^ 970 := by positivity
  rw [ofInt, ofRatio, isFinite_ofParts, decide_eq_true_iff]
  by_cases hn : n.natAbs = 0
  · rw [hn]
    have hzero : IsCanonical (roundRatio 0 1).1 (roundRatio 0 1).2 := by decide
    exact iff_of_true hzero (by omega)
  · have hround := lt_divHalfEven_iff n.natAbs (m := 2 ^ 53 - 1)
      (show 0 < 2 ^ 971 by omega) (by decide)
    rw [isCanonical_roundRatio_one_iff hn, Nat.log2_lt hn, Nat.log2_eq_iff hn]
    omega

end Binary64

end QueryTemplate.Number
