import Mathlib.Tactic
import QueryTemplate.Number.Decimal
import QueryTemplate.Number.Shortest

/-! Numbers in decimal notation: an optional sign, digits, an optional fraction and an optional
exponent. Every integer and every finite number is written in this form, whatever its size; only
NaN and infinity go by names. -/

namespace QueryTemplate.Number

open Numeral

def IsSign (t : Text) : Prop := t = [] ∨ t = ['-'] ∨ t = ['+']

/-- A point and digits, or nothing. -/
def IsFraction (t : Text) : Prop := t = [] ∨ ∃ ds, t = '.' :: ds ∧ isDigits ds = true

/-- A mark, a sign and digits, or nothing. -/
def IsExponent (t : Text) : Prop :=
  t = [] ∨ ∃ mark sign ds, t = mark :: (sign ++ ds) ∧ (mark = 'e' ∨ mark = 'E') ∧ IsSign sign ∧
    isDigits ds = true

/-- A numeral without a sign. -/
def IsUnsigned (t : Text) : Prop :=
  ∃ whole fraction exponent, t = whole ++ (fraction ++ exponent) ∧ isDigits whole = true ∧
    IsFraction fraction ∧ IsExponent exponent

def IsNumeral (t : Text) : Prop :=
  ∃ sign number, t = sign ++ number ∧ IsSign sign ∧ IsUnsigned number

/-! ### Rows of digits -/

theorem isDigits_iff {t : Text} : isDigits t = true ↔ t ≠ [] ∧ ∀ c ∈ t, c.isDigit = true := by
  simp [isDigits]

theorem exists_head_of_isDigits {t : Text} (h : isDigits t = true) :
    ∃ c rest, t = c :: rest ∧ c.isDigit = true := by
  obtain ⟨hne, hall⟩ := isDigits_iff.mp h
  cases t with
  | nil => exact absurd rfl hne
  | cons c rest => exact ⟨c, rest, rfl, hall c List.mem_cons_self⟩

theorem isDigits_digits (n : Nat) : isDigits (digits n) = true := by
  rw [isDigits_iff]
  constructor
  · exact List.ne_nil_of_length_pos (length_digits_pos n)
  · intro c hc
    exact Nat.isDigit_of_mem_toDigits (by decide) (by decide) hc

theorem isDigit_of_mem_zeros {n : Nat} {c : Char} (h : c ∈ List.replicate n '0') :
    c.isDigit = true := by
  rw [List.eq_of_mem_replicate h]
  rfl

/-- Zeros may stand in front of digits. -/
theorem isDigits_zeros_append (n : Nat) {t : Text} (h : isDigits t = true) :
    isDigits (List.replicate n '0' ++ t) = true := by
  rw [isDigits_iff] at h ⊢
  constructor
  · exact List.append_ne_nil_of_right_ne_nil _ h.1
  · intro c hc
    rcases List.mem_append.mp hc with hzero | hrest
    · exact isDigit_of_mem_zeros hzero
    · exact h.2 c hrest

theorem isDigits_append_zeros (n : Nat) {t : Text} (h : isDigits t = true) :
    isDigits (t ++ List.replicate n '0') = true := by
  rw [isDigits_iff] at h ⊢
  constructor
  · exact List.append_ne_nil_of_left_ne_nil h.1 _
  · intro c hc
    rcases List.mem_append.mp hc with hfirst | hzero
    · exact h.2 c hfirst
    · exact isDigit_of_mem_zeros hzero

/-- Digits cut in two are digits on both sides, unless a side is empty. -/
theorem isDigits_take {t : Text} (h : isDigits t = true) {n : Nat} (hn : 0 < n) :
    isDigits (t.take n) = true := by
  rw [isDigits_iff] at h ⊢
  constructor
  · rw [Ne, List.take_eq_nil_iff]
    rintro (hzero | hnil)
    · omega
    · exact h.1 hnil
  · exact fun c hc => h.2 c (List.mem_of_mem_take hc)

theorem isDigits_drop {t : Text} (h : isDigits t = true) {n : Nat} (hn : n < t.length) :
    isDigits (t.drop n) = true := by
  rw [isDigits_iff] at h ⊢
  constructor
  · rw [Ne, List.drop_eq_nil_iff]
    omega
  · exact fun c hc => h.2 c (List.mem_of_mem_drop hc)

theorem ofDigits_zeros_append (n : Nat) (t : Text) :
    ofDigits (List.replicate n '0' ++ t) = ofDigits t := by
  induction n with
  | zero => rfl
  | succ n ih =>
    rw [List.replicate_succ, List.cons_append, ofDigits, Nat.ofDigitChars_cons]
    exact ih

/-! ### Magnitudes -/

theorem isUnsigned_of_isDigits {t : Text} (h : isDigits t = true) : IsUnsigned t :=
  ⟨t, [], [], by simp, h, Or.inl rfl, Or.inl rfl⟩

theorem isUnsigned_point {whole fraction : Text} (hwhole : isDigits whole = true)
    (hfraction : isDigits fraction = true) : IsUnsigned (whole ++ '.' :: fraction) :=
  ⟨whole, '.' :: fraction, [], by simp, hwhole, Or.inr ⟨fraction, rfl, hfraction⟩, Or.inl rfl⟩

theorem isUnsigned_positionalText (keepsPoint : Bool) (x : Scientific) :
    IsUnsigned (x.positionalText keepsPoint) := by
  have hdigits := isDigits_digits x.coefficient
  unfold Scientific.positionalText
  dsimp only
  split_ifs with hexponent hpoint hwhole
  · exact isUnsigned_point (isDigits_append_zeros _ hdigits) rfl
  · rw [List.append_nil]
    exact isUnsigned_of_isDigits (isDigits_append_zeros _ hdigits)
  · have hzero : isDigits ['0'] = true := rfl
    exact isUnsigned_point hzero (isDigits_zeros_append _ hdigits)
  · -- The point stands among the digits.
    apply isUnsigned_point
    · exact isDigits_take hdigits (by omega)
    · exact isDigits_drop hdigits (by omega)

theorem isExponent_exponentText {mark : Char} (hmark : mark = 'e' ∨ mark = 'E') (width : Nat)
    (e : Int) : IsExponent (mark :: Scientific.exponentText width e) := by
  have hdigits := isDigits_zeros_append (width - (digits e.natAbs).length)
    (isDigits_digits e.natAbs)
  unfold Scientific.exponentText
  dsimp only
  split_ifs
  · exact Or.inr ⟨mark, ['-'], _, rfl, hmark, Or.inr (Or.inl rfl), hdigits⟩
  · exact Or.inr ⟨mark, ['+'], _, rfl, hmark, Or.inr (Or.inr rfl), hdigits⟩

theorem isUnsigned_exponentialText (keepsPoint : Bool) {mark : Char}
    (hmark : mark = 'e' ∨ mark = 'E') (width : Nat) (x : Scientific) :
    IsUnsigned (x.exponentialText keepsPoint mark width) := by
  have hdigits := isDigits_digits x.coefficient
  have hfirst := isDigits_take hdigits Nat.one_pos
  have hexponent := isExponent_exponentText hmark width x.adjusted
  unfold Scientific.exponentialText
  dsimp only
  rw [List.append_assoc]
  refine ⟨_, _, _, rfl, hfirst, ?_, hexponent⟩
  split_ifs with hlong hpoint
  · exact Or.inr ⟨_, rfl, isDigits_drop hdigits hlong⟩
  · exact Or.inr ⟨['0'], rfl, rfl⟩
  · exact Or.inl rfl

/-- A magnitude is written as a numeral in every style that marks exponents with an `e`. -/
theorem isUnsigned_text (style : Scientific.Style) (hmark : style.mark = 'e' ∨ style.mark = 'E')
    (x : Scientific) : IsUnsigned (x.text style) := by
  rw [Scientific.text]
  split_ifs
  · exact isUnsigned_positionalText _ x
  · exact isUnsigned_exponentialText _ hmark _ x

/-! ### Numbers -/

theorem isNumeral_of_isUnsigned {t : Text} (h : IsUnsigned t) : IsNumeral t :=
  ⟨[], t, rfl, Or.inl rfl, h⟩

theorem isNumeral_negative {t : Text} (h : IsUnsigned t) : IsNumeral ('-' :: t) :=
  ⟨['-'], t, rfl, Or.inr (Or.inl rfl), h⟩

theorem isNumeral_intText (n : Int) : IsNumeral (intText n) := by
  cases n with
  | ofNat n => exact isNumeral_of_isUnsigned (isUnsigned_of_isDigits (isDigits_digits n))
  | negSucc n => exact isNumeral_negative (isUnsigned_of_isDigits (isDigits_digits (n + 1)))

theorem digits_ne_negative (n : Nat) (t : Text) : digits n ≠ '-' :: t := by
  intro h
  have hminus := (isDigits_iff.mp (isDigits_digits n)).2 '-' (by rw [h]; exact List.mem_cons_self)
  cases hminus

/-- An integer has one text, and no other integer has it. -/
theorem intText_injective : Function.Injective intText := by
  have hdigits : Function.Injective digits := Function.LeftInverse.injective ofDigits_digits
  intro a b h
  cases a with
  | ofNat m =>
    cases b with
    | ofNat n => rw [hdigits h]
    | negSucc n => exact absurd h (digits_ne_negative m _)
  | negSucc m =>
    cases b with
    | ofNat n => exact absurd h.symm (digits_ne_negative n _)
    | negSucc n => rw [Nat.succ_injective (hdigits (List.cons.inj h).2)]

theorem isNumeral_signed (negative : Bool) {t : Text} (h : IsUnsigned t) :
    IsNumeral ((if negative then ['-'] else []) ++ t) := by
  cases negative with
  | false => exact isNumeral_of_isUnsigned h
  | true => exact isNumeral_negative h

theorem isNumeral_binary64 {x : Binary64} (h : x.isFinite = true) : IsNumeral x.text := by
  cases x with
  | nan | infinite => cases h
  | finite negative x =>
    exact isNumeral_signed negative (isUnsigned_text Binary64.style (Or.inl rfl) x.shortest)

/-- Whether a decimal number has a magnitude. -/
def Decimal.isFinite : Decimal → Bool
  | .finite .. => true
  | _ => false

theorem isNumeral_decimal {x : Decimal} (h : x.isFinite = true) : IsNumeral x.text := by
  cases x with
  | nan | infinite => cases h
  | finite negative x =>
    exact isNumeral_signed negative (isUnsigned_text Decimal.style (Or.inr rfl) x)

/-- A numeral begins with a digit or a sign. -/
theorem IsNumeral.exists_head {t : Text} (h : IsNumeral t) :
    ∃ c rest, t = c :: rest ∧ (c.isDigit = true ∨ c = '-' ∨ c = '+') := by
  obtain ⟨sign, number, rfl, hsign, whole, fraction, exponent, rfl, hwhole, -, -⟩ := h
  rcases hsign with rfl | rfl | rfl
  · obtain ⟨c, rest, rfl, hc⟩ := exists_head_of_isDigits hwhole
    exact ⟨c, _, rfl, Or.inl hc⟩
  · exact ⟨'-', _, rfl, Or.inr (Or.inl rfl)⟩
  · exact ⟨'+', _, rfl, Or.inr (Or.inr rfl)⟩

end QueryTemplate.Number
