import QueryTemplate.Proofs.Template.Integer

/-! What the placeholder for integers prints has one form, from whatever value it comes: `0`, or a
sign for a negative number and digits that begin with another one than zero. Such a numeral is
printed as it stands if it is within the digit limit. -/

namespace QueryTemplate

open Number Numeral

namespace Number

/-- Zero, or a row of digits that does not begin with a zero, perhaps after a minus sign. -/
def IsCanonicalNumeral (t : Text) : Prop :=
  t = ['0'] ∨ ∃ sign c rest, t = sign ++ c :: rest ∧ (sign = [] ∨ sign = ['-']) ∧ c ≠ '0' ∧
    ∀ d ∈ c :: rest, d.isDigit = true

/-! ### The first digit -/

/-- A number other than zero does not begin with a zero. From ten on its first digit is that of a
tenth of it. -/
theorem exists_head_of_digits {n : Nat} (hn : 0 < n) :
    ∃ c rest, digits n = c :: rest ∧ c ≠ '0' := by
  induction n using Nat.strongRecOn with
  | ind n ih =>
    rw [digits, Nat.toDigits_eq_if (by decide)]
    split_ifs with hsmall
    · refine ⟨n.digitChar, [], rfl, ?_⟩
      interval_cases n <;> decide
    · obtain ⟨c, rest, hdigits, hc⟩ := ih (n / 10) (by omega) (by omega)
      rw [digits] at hdigits
      exact ⟨c, rest ++ [(n % 10).digitChar], by rw [hdigits, List.cons_append], hc⟩

theorem digitChar_toNat_sub {c : Char} (h : c.isDigit = true) :
    c.toNat - '0'.toNat < 10 ∧ (c.toNat - '0'.toNat).digitChar = c := by
  obtain ⟨hlow, hhigh⟩ := Char.isDigit_iff_toNat.mp h
  have hzero : '0'.toNat = 48 := rfl
  have hnine : '9'.toNat = 57 := rfl
  have hlt : c.toNat - '0'.toNat < 10 := by omega
  refine ⟨hlt, Char.toNat_inj.mp ?_⟩
  rw [Nat.toNat_digitChar_of_lt_ten hlt]
  omega

theorem pos_of_digits_eq {n : Nat} {c : Char} {rest : Text} (h : digits n = c :: rest)
    (hc : c ≠ '0') : 0 < n := by
  apply Nat.pos_of_ne_zero
  rintro rfl
  exact hc (List.cons.inj h).1.symm

/-- Digits that do not begin with a zero are those of their number. -/
theorem digits_ofDigits {c : Char} {rest : Text} (hc : c ≠ '0')
    (hall : ∀ d ∈ c :: rest, d.isDigit = true) : digits (ofDigits (c :: rest)) = c :: rest := by
  induction rest using List.reverseRecOn with
  | nil =>
    obtain ⟨hlt, hchar⟩ := digitChar_toNat_sub (hall c List.mem_cons_self)
    rw [ofDigits, Nat.ofDigitChars_cons, Nat.ofDigitChars_nil, Nat.mul_zero, Nat.zero_add, digits,
      Nat.toDigits_of_lt_base hlt, hchar]
  | append_singleton rest d ih =>
    rw [← List.cons_append, List.forall_mem_append] at hall
    obtain ⟨hlt, hchar⟩ := digitChar_toNat_sub (hall.2 d List.mem_cons_self)
    have hfront := ih hall.1
    have hstep : ofDigits (c :: rest ++ [d]) =
        10 * ofDigits (c :: rest) + (d.toNat - '0'.toNat) := by
      rw [ofDigits, Nat.ofDigitChars_append, Nat.ofDigitChars_cons, Nat.ofDigitChars_nil,
        ← ofDigits]
    calc digits (ofDigits (c :: (rest ++ [d])))
        = digits (10 * ofDigits (c :: rest) + (d.toNat - '0'.toNat)) := by
          rw [← List.cons_append, hstep]
      _ = digits (ofDigits (c :: rest)) ++ digits (d.toNat - '0'.toNat) :=
          (Nat.toDigits_append_toDigits (by decide) (pos_of_digits_eq hfront hc) hlt).symm
      _ = c :: rest ++ [d] := by
          rw [hfront, digits, Nat.toDigits_of_lt_base hlt, hchar]

/-! ### Canonical numerals -/

/-- The canonical numerals are what integers are written as. -/
theorem isCanonicalNumeral_iff {t : Text} : IsCanonicalNumeral t ↔ ∃ n, intText n = t := by
  constructor
  · rintro (rfl | ⟨sign, c, rest, rfl, hsign, hc, hall⟩)
    · exact ⟨0, rfl⟩
    · have hdigits := digits_ofDigits hc hall
      rcases hsign with rfl | rfl
      · exact ⟨ofDigits (c :: rest), hdigits⟩
      · refine ⟨Int.negSucc (ofDigits (c :: rest) - 1), ?_⟩
        rw [intText, Nat.sub_add_cancel (pos_of_digits_eq hdigits hc), hdigits]
        rfl
  · rintro ⟨n, rfl⟩
    have hall := fun n => (isDigits_iff.mp (isDigits_digits n)).2
    cases n with
    | ofNat n =>
      by_cases hn : n = 0
      · subst hn
        exact Or.inl rfl
      · obtain ⟨c, rest, hdigits, hc⟩ := exists_head_of_digits (Nat.pos_of_ne_zero hn)
        exact Or.inr ⟨[], c, rest, hdigits, Or.inl rfl, hc, hdigits ▸ hall n⟩
    | negSucc n =>
      obtain ⟨c, rest, hdigits, hc⟩ := exists_head_of_digits n.succ_pos
      exact Or.inr ⟨['-'], c, rest, congrArg ('-' :: ·) hdigits, Or.inr rfl, hc,
        hdigits ▸ hall (n + 1)⟩

theorem countP_isDigit_digits (n : Nat) : (digits n).countP Char.isDigit = (digits n).length :=
  List.countP_eq_length.mpr (isDigits_iff.mp (isDigits_digits n)).2

/-- An integer can be written if there are not too many digits in its text. -/
theorem isWritable_iff_countP_le (n : ℤ) :
    isWritable n = true ↔ (intText n).countP Char.isDigit ≤ digitLimit := by
  rw [isWritable_iff_length_digits_le, ← countP_isDigit_digits]
  cases n with
  | ofNat n => rfl
  | negSucc n =>
    rw [intText, List.countP_cons_of_neg (by decide)]
    rfl

/-! ### Reading back what is written -/

theorem toAscii_eq_self {s : Text} (h : ∀ c ∈ s, c.isDigit = true) : toAscii s = s := by
  rw [toAscii_eq_map]
  calc s.map asciiChar
      = s.map id :=
        List.map_congr_left fun c hc => if_pos ((toNat_lt_of_isDigit (h c hc)).trans (by decide))
    _ = s := List.map_id s

/-- The integer reader takes a sign and digits without any spacing. -/
theorem readInteger?_append {sign ds : Text} (hsign : IsSign sign) (hds : isDigits ds = true)
    (hlength : ds.length ≤ digitLimit) :
    readInteger? (sign ++ ds) =
      some (if sign = ['-'] then -(ofDigits ds : ℤ) else ofDigits ds) := by
  have hascii : toAscii (sign ++ ds) = sign ++ ds := by
    rw [toAscii_append, toAscii_sign hsign, toAscii_eq_self (isDigits_iff.mp hds).2]
  have hread := asciiInteger_append (List.forall_mem_nil _) hsign hds (List.forall_mem_nil _)
  rw [List.nil_append, List.append_nil, if_neg (not_lt.mpr hlength)] at hread
  rw [readInteger?, readInteger, hascii, hread]
  rfl

/-- An integer is read back from its text if it can be written. -/
theorem readInteger?_intText {n : ℤ} (h : isWritable n = true) :
    readInteger? (intText n) = some n := by
  have hlength := (isWritable_iff_length_digits_le n).mp h
  cases n with
  | ofNat n =>
    have hread := readInteger?_append (Or.inl rfl) (isDigits_digits n) hlength
    rw [List.nil_append, ofDigits_digits] at hread
    exact hread
  | negSucc n =>
    have hread := readInteger?_append (Or.inr (Or.inl rfl)) (isDigits_digits (n + 1)) hlength
    rw [ofDigits_digits] at hread
    exact hread

end Number

namespace Tag

/-- The text of an integer is printed as it stands if the integer can be written. -/
theorem render_integer_intText {n : ℤ} (h : isWritable n = true) :
    Tag.integer.render (.text (intText n)) = .ok (intText n) := by
  have hprinted : (Value.text (intText n)).toInteger?.bind intText? = some (intText n) := by
    rw [Value.toInteger?, readInteger?_intText h, Option.bind_some, intText?, if_pos h]
  show renderInteger (.text (intText n)) = .ok (intText n)
  simp only [renderInteger, hprinted]

/-- The texts that are printed as they stand are the canonical numerals within the digit limit. -/
theorem render_integer_eq_self_iff {t : Text} : Tag.integer.render (.text t) = .ok t ↔
    IsCanonicalNumeral t ∧ t.countP Char.isDigit ≤ digitLimit := by
  constructor
  · intro h
    obtain ⟨n, hwritable, rfl, -⟩ := exists_of_render_integer_eq_ok (by simp) h
    exact ⟨isCanonicalNumeral_iff.mpr ⟨n, rfl⟩, (isWritable_iff_countP_le n).mp hwritable⟩
  · rintro ⟨hcanonical, hdigits⟩
    obtain ⟨n, rfl⟩ := isCanonicalNumeral_iff.mp hcanonical
    exact render_integer_intText ((isWritable_iff_countP_le n).mpr hdigits)

/-- What is printed for a value is a canonical numeral, and it is printed as it stands. -/
theorem render_integer_canonical {v : Value} {t : Text} (hv : v ≠ .null)
    (h : Tag.integer.render v = .ok t) :
    IsCanonicalNumeral t ∧ Tag.integer.render (.text t) = .ok t := by
  obtain ⟨n, hwritable, rfl, -⟩ := exists_of_render_integer_eq_ok hv h
  exact ⟨isCanonicalNumeral_iff.mpr ⟨n, rfl⟩, render_integer_intText hwritable⟩

/-- A numeral with white space, a low line, digits of another script, a fraction and an exponent. -/
def mixedNumeral : Text := " -\u0663_4.9e1\u2003".toList

theorem render_integer_canonical_mixedNumeral :
    Value.text mixedNumeral ≠ .null ∧
      Tag.integer.render (.text mixedNumeral) = .ok "-349".toList ∧
      IsCanonicalNumeral "-349".toList ∧
      Tag.integer.render (.text "-349".toList) = .ok "-349".toList := by
  have hprinted : Tag.integer.render (.text mixedNumeral) = .ok "-349".toList := by decide +kernel
  exact ⟨by simp, hprinted, render_integer_canonical (by simp) hprinted⟩

end Tag

end QueryTemplate
