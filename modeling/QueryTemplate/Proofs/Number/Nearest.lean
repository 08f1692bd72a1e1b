import QueryTemplate.Proofs.Number.Exact

/-! Rounding to a binary number. Of all finite numbers the one that a fraction or a decimal is
rounded to is the nearest, and of two that are as near it has the even mantissa. Numbers are
multiples of the step of the last place, or they lie below the leading bit. -/

namespace QueryTemplate.Number

/-- A magnitude than which no other is nearer to a rational. If another one is as near, the mantissa
is even. -/
structure Dyadic.IsNearest (x : Dyadic) (v : ℚ) : Prop where
  le : ∀ y : Dyadic, |x.value - v| ≤ |y.value - v|
  even : ∀ y : Dyadic, |y.value - v| = |x.value - v| → y.value ≠ x.value → x.mantissa % 2 = 0

/-! ### The nearest whole number -/

/-- A whole number at most a half away from a rational, and even if it is a half away. -/
structure IsHalfEven (n : ℕ) (v : ℚ) : Prop where
  le_half : |(n : ℚ) - v| ≤ 1 / 2
  even : |(n : ℚ) - v| = 1 / 2 → n % 2 = 0

/-- A whole part is kept below the middle and exceeded above it; in the middle it is kept if it is
even. -/
theorem isHalfEven_add (whole : ℕ) {part : ℚ} (hpart : 0 ≤ part) (hone : part < 1) :
    IsHalfEven (if 1 / 2 < part ∨ part = 1 / 2 ∧ whole % 2 = 1 then whole + 1 else whole)
      (whole + part) := by
  have hbelow : |(whole : ℚ) - (whole + part)| = part := by
    rw [sub_add_cancel_left, abs_neg, abs_of_nonneg hpart]
  have habove : |((whole + 1 : ℕ) : ℚ) - (whole + part)| = 1 - part := by
    rw [Nat.cast_add_one, add_sub_add_left_eq_sub, abs_of_pos (sub_pos.mpr hone)]
  split_ifs with hup
  · refine ⟨?_, fun heven => ?_⟩
    · rw [habove]
      rcases hup with hgt | ⟨heq, -⟩ <;> linarith
    · rw [habove] at heven
      rcases hup with hgt | ⟨-, hodd⟩
      · linarith
      · omega
  · rw [not_or, not_lt, not_and] at hup
    refine ⟨?_, fun heven => ?_⟩
    · rw [hbelow]
      exact hup.1
    · rw [hbelow] at heven
      have hodd := hup.2 heven
      omega

theorem isHalfEven_divHalfEven (num : ℕ) {den : ℕ} (hden : 0 < den) :
    IsHalfEven (divHalfEven num den) (num / den) := by
  have hpos : (0 : ℚ) < den := Nat.cast_pos.mpr hden
  have hsplit : (num : ℚ) / den = (num / den : ℕ) + (num % den : ℕ) / (den : ℚ) := by
    have hdiv : (num : ℚ) = den * (num / den : ℕ) + (num % den : ℕ) := by
      exact_mod_cast (Nat.div_add_mod num den).symm
    field_simp
    linarith
  have hone : (num % den : ℕ) / (den : ℚ) < 1 := by
    rw [div_lt_one hpos]
    exact_mod_cast Nat.mod_lt num hden
  have hover : den < 2 * (num % den) ↔ 1 / 2 < (num % den : ℕ) / (den : ℚ) := by
    rw [lt_div_iff₀ hpos, div_mul_eq_mul_div, one_mul, div_lt_iff₀ (by norm_num), mul_comm]
    exact_mod_cast Iff.rfl
  have hhalf : 2 * (num % den) = den ↔ (num % den : ℕ) / (den : ℚ) = 1 / 2 := by
    rw [div_eq_div_iff hpos.ne' (by norm_num), mul_comm, one_mul]
    exact_mod_cast Iff.rfl
  rw [hsplit]
  unfold divHalfEven
  simp only [Bool.or_eq_true, Bool.and_eq_true, decide_eq_true_eq, hover, hhalf]
  exact isHalfEven_add (num / den) (by positivity) hone

theorem IsHalfEven.half_le {n : ℕ} {v : ℚ} (h : IsHalfEven n v) {k : ℕ} (hk : k ≠ n) :
    1 / 2 ≤ |(k : ℚ) - v| := by
  have hstep : (1 : ℚ) ≤ |(k : ℚ) - n| := by
    have hdistance : (1 : ℤ) ≤ |(k : ℤ) - n| := Int.one_le_abs (by omega)
    exact_mod_cast hdistance
  have htriangle := abs_sub_le (k : ℚ) v n
  rw [abs_sub_comm v] at htriangle
  linarith [h.le_half]

theorem IsHalfEven.le {n : ℕ} {v : ℚ} (h : IsHalfEven n v) (k : ℕ) :
    |(n : ℚ) - v| ≤ |(k : ℚ) - v| := by
  by_cases hk : k = n
  · rw [hk]
  · exact h.le_half.trans (h.half_le hk)

theorem IsHalfEven.even_of_eq {n : ℕ} {v : ℚ} (h : IsHalfEven n v) {k : ℕ} (hk : k ≠ n)
    (heq : |(k : ℚ) - v| = |(n : ℚ) - v|) : n % 2 = 0 :=
  h.even (le_antisymm h.le_half (heq ▸ h.half_le hk))

/-! ### The step of the last place -/

namespace Dyadic

theorem leading_le_value {y : Dyadic} (hy : -1074 < y.exponent) :
    2 ^ 52 * 2 ^ y.exponent ≤ y.value := by
  have hlead : 2 ^ 52 ≤ y.mantissa := y.isCanonical.2.2.2.resolve_right hy.ne'
  rw [value]
  gcongr
  exact_mod_cast hlead

theorem value_lt_of_exponent_lt {y : Dyadic} {e : ℤ} (h : y.exponent < e) :
    y.value < 2 ^ 52 * 2 ^ e := by
  have hmantissa : (y.mantissa : ℚ) < 2 ^ 53 := by exact_mod_cast y.isCanonical.1
  calc y.value ≤ y.mantissa * 2 ^ (e - 1) := by
        rw [value]
        gcongr
        · norm_num
        · omega
    _ < 2 ^ 53 * 2 ^ (e - 1) := by gcongr
    _ = 2 ^ 52 * 2 ^ e := by
        rw [zpow_sub_one₀ two_ne_zero]
        ring

/-- Against a step of the last place, a number is a multiple of the step or lies below the leading
bit. -/
theorem value_eq_or_lt (y : Dyadic) (e : ℤ) :
    (∃ k : ℕ, y.value = k * 2 ^ e) ∨ -1074 < e ∧ y.value < 2 ^ 52 * 2 ^ e := by
  rcases le_or_gt e y.exponent with hle | hgt
  · refine Or.inl ⟨y.mantissa * 2 ^ (y.exponent - e).toNat, ?_⟩
    have hsum : y.exponent = (y.exponent - e).toNat + e := by omega
    rw [value]
    conv_lhs => rw [hsum, zpow_add₀ two_ne_zero, zpow_natCast]
    push_cast
    ring
  · exact Or.inr ⟨y.isCanonical.2.1.trans_lt hgt, value_lt_of_exponent_lt hgt⟩

/-- A number is nearest if in steps of the last place it is the nearest whole number, and the
leading bit of what is rounded is not below the first place. -/
theorem isNearest_of_isHalfEven {x : Dyadic} {v : ℚ} {n : ℕ} {e : ℤ}
    (hn : IsHalfEven n (v / 2 ^ e)) (hv : 2 ^ 52 * 2 ^ e ≤ v ∨ e = -1074)
    (hx : x.value = n * 2 ^ e) (hmantissa : n % 2 = 0 → x.mantissa % 2 = 0) : x.IsNearest v := by
  have hpos : (0 : ℚ) < 2 ^ e := by positivity
  have hscale (k : ℕ) : |(k : ℚ) * 2 ^ e - v| = |(k : ℚ) - v / 2 ^ e| * 2 ^ e := by
    rw [← abs_of_pos hpos, ← abs_mul, abs_of_pos hpos, sub_mul, div_mul_cancel₀ _ hpos.ne']
  have hgrid (k : ℕ) : |x.value - v| ≤ |(k : ℚ) * 2 ^ e - v| := by
    rw [hx, hscale, hscale]
    exact mul_le_mul_of_nonneg_right (hn.le k) hpos.le
  -- a number below the leading bit is farther off than the power of two at that bit
  have hbelow {y : Dyadic} (hleast : -1074 < e) (hy : y.value < 2 ^ 52 * 2 ^ e) :
      |x.value - v| < |y.value - v| := by
    have hlead : 2 ^ 52 * 2 ^ e ≤ v := hv.resolve_right hleast.ne'
    calc |x.value - v| ≤ |((2 ^ 52 : ℕ) : ℚ) * 2 ^ e - v| := hgrid (2 ^ 52)
      _ = v - 2 ^ 52 * 2 ^ e := by
          rw [Nat.cast_pow, Nat.cast_ofNat, abs_sub_comm, abs_of_nonneg (sub_nonneg.mpr hlead)]
      _ < v - y.value := by linarith
      _ ≤ |y.value - v| := by
          rw [abs_sub_comm]
          exact le_abs_self _
  refine ⟨fun y => ?_, fun y heq hne => ?_⟩
  · obtain ⟨k, hk⟩ | ⟨hleast, hy⟩ := y.value_eq_or_lt e
    · rw [hk]
      exact hgrid k
    · exact (hbelow hleast hy).le
  · obtain ⟨k, hk⟩ | ⟨hleast, hy⟩ := y.value_eq_or_lt e
    · have hkn : k ≠ n := by
        rintro rfl
        exact hne (hk.trans hx.symm)
      rw [hk, hx, hscale, hscale] at heq
      exact hmantissa (hn.even_of_eq hkn (mul_right_cancel₀ hpos.ne' heq))
    · exact absurd heq (hbelow hleast hy).ne'

/-- Zero is nearest up to half the least number. -/
theorem isNearest_zero {x : Dyadic} (hx : x.mantissa = 0) {v : ℚ} (hv : 0 ≤ v)
    (hsmall : 2 * v ≤ 2 ^ (-1074 : ℤ)) : x.IsNearest v := by
  have hzero : x.value = 0 := by rw [value, hx, Nat.cast_zero, zero_mul]
  refine ⟨fun y => ?_, fun _ _ _ => by rw [hx]⟩
  rw [hzero, zero_sub, abs_neg, abs_of_nonneg hv]
  by_cases hy : y.mantissa = 0
  · rw [value, hy, Nat.cast_zero, zero_mul, zero_sub, abs_neg, abs_of_nonneg hv]
  · have hleast : (2 : ℚ) ^ (-1074 : ℤ) ≤ y.value := by
      calc (2 : ℚ) ^ (-1074 : ℤ) ≤ 2 ^ y.exponent :=
            zpow_le_zpow_right₀ one_le_two y.isCanonical.2.1
        _ ≤ y.value := by
            refine le_mul_of_one_le_left (by positivity) ?_
            exact_mod_cast Nat.one_le_iff_ne_zero.mpr hy
    calc v ≤ y.value - v := by linarith
      _ ≤ |y.value - v| := le_abs_self _

/-! ### Neighbours -/

/-- A number that is not zero lies a step above another one. That one is odd if it is even itself,
and has a leading bit too unless it is among the least numbers. -/
theorem exists_pred {x : Dyadic} (hx : x.mantissa ≠ 0) :
    ∃ y : Dyadic, y.value + 2 ^ y.exponent = x.value ∧
      (x.mantissa % 2 = 0 → y.mantissa % 2 = 1) ∧
      (-1074 < x.exponent → 2 ^ 52 ≤ y.mantissa) := by
  obtain ⟨hm, hleast, he, hlead⟩ := x.isCanonical
  simp only [Nat.pow_eq] at hm hlead
  -- below a power of two the step is half as long, unless it is the least step
  by_cases hpower : x.mantissa = 2 ^ 52 ∧ -1074 < x.exponent
  · refine ⟨⟨2 ^ 53 - 1, x.exponent - 1, by decide, by omega, by omega, Or.inl (by decide)⟩,
      ?_, by norm_num, by norm_num⟩
    simp only [value]
    rw [hpower.1, zpow_sub_one₀ two_ne_zero]
    norm_num
    ring
  · have hbits : 2 ^ 52 ≤ x.mantissa - 1 ∨ x.exponent = -1074 := by omega
    refine ⟨⟨x.mantissa - 1, x.exponent, (Nat.sub_le _ 1).trans_lt hm, hleast, he, hbits⟩,
      ?_, ?_, ?_⟩
    · simp only [value]
      rw [Nat.cast_pred (Nat.pos_of_ne_zero hx)]
      ring
    · dsimp only
      omega
    · dsimp only
      omega

/-- No number lies between one and the next. -/
theorem value_le_of_lt {w x y : Dyadic} (hy : y.value + 2 ^ y.exponent = x.value)
    (hw : w.value < x.value) : w.value ≤ y.value := by
  have hpos : (0 : ℚ) < 2 ^ y.exponent := by positivity
  obtain ⟨k, hk⟩ | ⟨hleast, hlt⟩ := w.value_eq_or_lt y.exponent
  · have hstep : (k : ℚ) < y.mantissa + 1 := by
      refine lt_of_mul_lt_mul_right ?_ hpos.le
      calc (k : ℚ) * 2 ^ y.exponent = w.value := hk.symm
        _ < x.value := hw
        _ = (y.mantissa + 1) * 2 ^ y.exponent := by
            rw [← hy, value]
            ring
    have hle : k ≤ y.mantissa := Nat.lt_succ_iff.mp (by exact_mod_cast hstep)
    rw [hk, value]
    gcongr
  · exact hlt.le.trans (leading_le_value hleast)

theorem value_injective : Function.Injective value := by
  have hle : ∀ x y : Dyadic, x.value = y.value → y.exponent ≤ x.exponent := by
    intro x y h
    by_contra hlt
    have hgt := not_le.mp hlt
    exact absurd h
      ((value_lt_of_exponent_lt hgt).trans_le
        (leading_le_value (x.isCanonical.2.1.trans_lt hgt))).ne
  intro x y h
  have hexponent : x.exponent = y.exponent := le_antisymm (hle y x h.symm) (hle x y h)
  have hmantissa : x.mantissa = y.mantissa := by
    rw [value, value, hexponent] at h
    exact_mod_cast mul_right_cancel₀ (by positivity) h
  cases x
  cases y
  cases hexponent
  cases hmantissa
  rfl

/-- There is only one nearest number. Of two that are as near both would be even, and the odd one
between them would be nearer. -/
theorem IsNearest.value_unique {x y : Dyadic} {v : ℚ} (hx : x.IsNearest v) (hy : y.IsNearest v) :
    x.value = y.value := by
  have heq : |x.value - v| = |y.value - v| := le_antisymm (hx.le y) (hy.le x)
  by_contra hne
  wlog hlt : x.value < y.value generalizing x y
  · exact this hy hx heq.symm (Ne.symm hne) (lt_of_le_of_ne (not_lt.mp hlt) (Ne.symm hne))
  have hzero : y.mantissa ≠ 0 := by
    intro h
    rw [value.eq_def y, h, Nat.cast_zero, zero_mul] at hlt
    exact absurd x.value_nonneg (not_le.mpr hlt)
  obtain ⟨z, hz, hodd, -⟩ := exists_pred hzero
  have hxz : x.value ≠ z.value := by
    intro h
    have hx' := hx.even y heq.symm (Ne.symm hne)
    have hz' := hodd (hy.even x heq hne)
    rw [value_injective h] at hx'
    omega
  have hbetween : x.value < z.value := lt_of_le_of_ne (value_le_of_lt hz hlt) hxz
  have hstep : (0 : ℚ) < 2 ^ z.exponent := by positivity
  have hmiddle : x.value - v = -(y.value - v) :=
    (abs_eq_abs.mp heq).resolve_left fun h => hne (sub_left_injective h)
  have hnear : |z.value - v| < |x.value - v| := by
    rw [abs_of_nonpos (show x.value - v ≤ 0 by linarith), abs_lt]
    constructor <;> linarith
  exact absurd (hx.le z) (not_le.mpr hnear)

end Dyadic

namespace Binary64

/-! ### Fractions -/

/-- What is rounded has the leading bit of the quotient, or the one below it. -/
theorem two_zpow_lt_div {num den : ℕ} (hnum : num ≠ 0) (hden : den ≠ 0) :
    (2 : ℚ) ^ ((num.log2 : ℤ) - den.log2 - 1) < num / den := by
  have hlow : (2 : ℚ) ^ (num.log2 : ℤ) ≤ num := by
    rw [zpow_natCast]
    exact_mod_cast Nat.log2_self_le hnum
  have hhigh : (den : ℚ) < 2 ^ ((den.log2 : ℤ) + 1) := by
    rw [← Nat.cast_add_one, zpow_natCast]
    exact_mod_cast Nat.lt_log2_self
  have hpos : (0 : ℚ) < den := Nat.cast_pos.mpr (Nat.pos_of_ne_zero hden)
  rw [lt_div_iff₀ hpos]
  calc (2 : ℚ) ^ ((num.log2 : ℤ) - den.log2 - 1) * den
      < 2 ^ ((num.log2 : ℤ) - den.log2 - 1) * 2 ^ ((den.log2 : ℤ) + 1) := by gcongr
    _ = 2 ^ (num.log2 : ℤ) := by
        rw [← zpow_add₀ two_ne_zero]
        congr 1
        ring
    _ ≤ num := hlow

/-- A fraction in steps of a power of two, as a quotient of whole numbers. -/
theorem div_div_zpow (num den : ℕ) (e : ℤ) : (num : ℚ) / den / 2 ^ e =
    (num * 2 ^ (-e).toNat : ℕ) / (den * 2 ^ e.toNat : ℕ) := by
  have h := mul_zpow_eq_div num (show 2 ≠ 0 by decide) (-e)
  rw [neg_neg, Nat.cast_ofNat] at h
  rw [div_right_comm, div_eq_mul_inv _ ((2 : ℚ) ^ e), ← zpow_neg, h, Nat.cast_mul den, div_div,
    mul_comm (den : ℚ)]

/-- A fraction is rounded to the nearest whole number of steps. The step is the least one, or the
leading bit is at the first place. -/
theorem roundRatio_eq {num den : ℕ} (hnum : num ≠ 0) (hden : den ≠ 0) :
    ∃ (n : ℕ) (e : ℤ), IsHalfEven n ((num : ℚ) / den / 2 ^ e) ∧
      (2 ^ 52 * (2 : ℚ) ^ e ≤ num / den ∨ e = -1074) ∧
      roundRatio num den = if n = 2 ^ 53 then (2 ^ 52, e + 1) else (n, e) := by
  have hsteps (e : ℤ) : IsHalfEven
      (divHalfEven (num * 2 ^ (-e).toNat) (den * 2 ^ e.toNat)) ((num : ℚ) / den / 2 ^ e) := by
    rw [div_div_zpow]
    exact isHalfEven_divHalfEven _ (by positivity)
  set low : ℤ := max (-1074) (num.log2 - den.log2 - 53) with hlow
  have hfirst : 2 ^ 52 * (2 : ℚ) ^ low ≤ num / den ∨ low = -1074 := by
    rcases le_total ((num.log2 : ℤ) - den.log2 - 53) (-1074) with hle | hge
    · exact Or.inr (max_eq_left hle)
    · refine Or.inl (le_of_eq_of_le ?_ (two_zpow_lt_div hnum hden).le)
      rw [hlow, max_eq_right hge, ← zpow_natCast, ← zpow_add₀ two_ne_zero]
      congr 1
      push_cast
      ring
  set e : ℤ := if 2 ^ 53 ≤ num * 2 ^ (-low).toNat / (den * 2 ^ low.toNat) then low + 1 else low
    with he
  refine ⟨_, e, hsteps e, ?_, ?_⟩
  · rw [he]
    split_ifs with hlong
    · have hquotient : (2 ^ 53 : ℚ) ≤ num / den / 2 ^ low := by
        rw [div_div_zpow]
        calc (2 ^ 53 : ℚ) ≤ (num * 2 ^ (-low).toNat / (den * 2 ^ low.toNat) : ℕ) := by
              exact_mod_cast hlong
          _ ≤ _ := Nat.cast_div_le
      refine Or.inl ?_
      rw [le_div_iff₀ (by positivity)] at hquotient
      refine le_of_eq_of_le ?_ hquotient
      rw [zpow_add_one₀ two_ne_zero]
      ring
    · exact hfirst
  · unfold roundRatio
    rw [if_neg hnum]
    rfl

theorem ofRatio_zero (negative : Bool) :
    ofRatio negative 0 1 = .finite negative ⟨0, -1074, by decide⟩ := rfl

/-- The finite number that a fraction is rounded to is the nearest one. -/
theorem isNearest_of_ofRatio_eq {negative sign : Bool} {num den : ℕ} {x : Dyadic} (hden : den ≠ 0)
    (h : ofRatio negative num den = .finite sign x) :
    sign = negative ∧ x.IsNearest (num / den) := by
  rw [ofRatio, ofParts] at h
  split_ifs at h with hcanonical
  cases h
  refine ⟨rfl, ?_⟩
  by_cases hnum : num = 0
  · refine Dyadic.isNearest_zero ?_ (by positivity) ?_
    · simp only [roundRatio, if_pos hnum]
    · rw [hnum, Nat.cast_zero, zero_div, mul_zero]
      positivity
  · obtain ⟨n, e, hn, hlead, hround⟩ := roundRatio_eq hnum hden
    refine Dyadic.isNearest_of_isHalfEven hn hlead ?_ ?_
    · simp only [Dyadic.value, hround]
      split_ifs with hcarry
      · rw [hcarry, zpow_add_one₀ two_ne_zero]
        push_cast
        ring
      · rfl
    · simp only [hround]
      split_ifs
      · intro _
        norm_num
      · exact id

/-! ### Decimals -/

theorem ten_zpow_le : 2 * (10 : ℚ) ^ (-330 : ℤ) ≤ 2 ^ (-1074 : ℤ) := by
  have hwhole : 2 * 2 ^ 1074 ≤ 10 ^ 330 := by decide +kernel
  rw [zpow_neg, zpow_neg, ← div_eq_mul_inv, div_le_iff₀ (by positivity), inv_mul_eq_div,
    le_div_iff₀ (by positivity)]
  exact_mod_cast hwhole

/-- The finite number that a decimal is rounded to is the nearest one. -/
theorem isNearest_of_ofScientific_eq {negative sign : Bool} {x : Scientific} {y : Dyadic}
    (h : ofScientific negative x = .finite sign y) : sign = negative ∧ y.IsNearest x.value := by
  have hratio := mul_zpow_eq_div x.coefficient (show 10 ≠ 0 by decide) x.exponent
  rw [Nat.cast_ofNat] at hratio
  unfold ofScientific at h
  dsimp only at h
  split_ifs at h with hzero hlarge
  · rw [ofRatio_zero] at h
    cases h
    refine ⟨rfl, Dyadic.isNearest_zero rfl x.value_nonneg ?_⟩
    rw [Bool.or_eq_true, decide_eq_true_iff, decide_eq_true_iff] at hzero
    rcases hzero with hnone | hsmall
    · rw [Scientific.value, hnone, Nat.cast_zero, zero_mul, mul_zero]
      positivity
    · calc 2 * x.value ≤ 2 * 10 ^ (x.adjusted + 1) := by
            gcongr
            exact x.value_lt.le
        _ ≤ 2 * 10 ^ (-330 : ℤ) := by
            gcongr
            · norm_num
            · omega
        _ ≤ 2 ^ (-1074 : ℤ) := ten_zpow_le
  · obtain ⟨hsign, hnearest⟩ := isNearest_of_ofRatio_eq (pow_ne_zero _ (by decide)) h
    simp only [Nat.pow_eq] at hnearest
    rw [← hratio] at hnearest
    exact ⟨hsign, hnearest⟩

end Binary64

end QueryTemplate.Number
