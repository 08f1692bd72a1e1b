import QueryTemplate.Proofs.Number.Exact
import QueryTemplate.Proofs.Number.Reading

/-! Decimal numerals and what they denote. A numeral stands between white space and has a sign,
digits of any script with a point anywhere among them or none, and perhaps an exponent. Its value is
exact; the integer reader gives it back, the reader of binary numbers rounds it. -/

namespace QueryTemplate.Number

open Numeral

/-- Whether a character is a decimal digit of some script. -/
def IsDecimal (c : Char) : Prop := (Text.decimalValue? c).isSome = true

instance (c : Char) : Decidable (IsDecimal c) := inferInstanceAs (Decidable (_ = true))

/-- The number that a row of decimal digits denotes. -/
def digitsValue (s : Text) : ℕ :=
  s.foldl (fun n c => 10 * n + (Text.decimalValue? c).getD 0) 0

theorem digitsValue_lt (s : Text) : digitsValue s < 10 ^ s.length := by
  induction s using List.reverseRecOn with
  | nil => decide
  | append_singleton s c ih =>
    have hd : (Text.decimalValue? c).getD 0 < 10 := by
      cases h : Text.decimalValue? c with
      | none => decide
      | some d => exact Text.decimalValue?_lt h
    rw [digitsValue] at ih ⊢
    rw [List.foldl_concat, List.length_append, List.length_singleton, pow_succ]
    omega

structure Exponent where
  mark : Char
  sign : Text
  digits : Text
  isMark : mark = 'e' ∨ mark = 'E'
  isSign : IsSign sign
  isDecimal : ∀ c ∈ digits, IsDecimal c
  ne_nil : digits ≠ []

namespace Exponent

def text (e : Exponent) : Text := e.mark :: (e.sign ++ e.digits)

def value (e : Exponent) : ℤ :=
  if e.sign = ['-'] then -(digitsValue e.digits : ℤ) else digitsValue e.digits

end Exponent

/-- A decimal numeral, part by part. -/
structure Spelling where
  before : Text
  sign : Text
  whole : Text
  fraction : Option Text
  exponent : Option Exponent
  after : Text
  isBlank : ∀ c ∈ before ++ after, Text.isBlank c = true
  isSign : IsSign sign
  isDecimal : ∀ c ∈ whole ++ fraction.getD [], IsDecimal c
  ne_nil : whole ++ fraction.getD [] ≠ []

namespace Spelling

/-- A numeral that is nothing but digits and perhaps a point. -/
def bare (whole : Text) (fraction : Option Text)
    (h : ((whole ++ fraction.getD []).all fun c => IsDecimal c) = true)
    (hne : whole ++ fraction.getD [] ≠ []) : Spelling :=
  ⟨[], [], whole, fraction, none, [], List.forall_mem_nil _, Or.inl rfl,
    fun c hc => of_decide_eq_true (List.all_eq_true.mp h c hc), hne⟩

def text (p : Spelling) : Text :=
  p.before ++ ((p.sign ++ (p.whole ++ (pointed p.fraction ++ p.exponent.elim [] Exponent.text))) ++
    p.after)

def negative (p : Spelling) : Bool := p.sign = ['-']

def magnitude (p : Spelling) : Scientific :=
  ⟨digitsValue (p.whole ++ p.fraction.getD []),
    p.exponent.elim 0 Exponent.value - (p.fraction.getD []).length⟩

/-- The number that a numeral denotes. -/
def value (p : Spelling) : ℚ := signed p.negative p.magnitude.value

/-- Whether a numeral is an integer within the digit limit, as it is written: it has no point and no
exponent. -/
def IsInteger (p : Spelling) : Prop :=
  p.fraction = none ∧ p.exponent = none ∧ p.whole.length ≤ digitLimit

end Spelling

/-! ### Digits and white space in ASCII -/

namespace Numeral

/-- What a character of a numeral is replaced with. -/
def asciiChar (c : Char) : Char :=
  if c.toNat < 128 then c
  else if Text.isBlank c then ' '
  else ((Text.decimalValue? c).map Nat.digitChar).getD '?'

theorem toAscii_eq_map (s : Text) : toAscii s = s.map asciiChar := rfl

theorem toAscii_append (s t : Text) : toAscii (s ++ t) = toAscii s ++ toAscii t := List.map_append

theorem toAscii_sign {sign : Text} (h : IsSign sign) : toAscii sign = sign := by
  rcases h with rfl | rfl | rfl <;> rfl

theorem toAscii_pointed (fraction : Option Text) :
    toAscii (pointed fraction) = pointed (fraction.map toAscii) := by
  cases fraction <;> rfl

theorem exists_zero_of_decimalValue? {c : Char} {d : ℕ} (h : Text.decimalValue? c = some d) :
    ∃ start ∈ Text.zeroDigits, c.toNat = start + d := by
  obtain ⟨start, hfind, rfl⟩ := Option.map_eq_some_iff.mp h
  have hrange := List.find?_some hfind
  rw [Bool.and_eq_true, decide_eq_true_iff, decide_eq_true_iff] at hrange
  exact ⟨start, List.mem_of_find?_eq_some hfind, by omega⟩

/-- No digit is white space. -/
theorem isBlank_eq_false {c : Char} {d : ℕ} (h : Text.decimalValue? c = some d) :
    Text.isBlank c = false := by
  have hapart : ∀ start ∈ Text.zeroDigits, ∀ range ∈ Text.blankRanges,
      range.2 < start ∨ start + 10 ≤ range.1 := by decide
  have hd := Text.decimalValue?_lt h
  obtain ⟨start, hstart, hc⟩ := exists_zero_of_decimalValue? h
  rw [Text.isBlank, Text.inRanges, List.any_eq_false]
  intro range hrange
  have := hapart start hstart range hrange
  rw [Bool.and_eq_true, decide_eq_true_iff, decide_eq_true_iff]
  omega

theorem asciiChar_of_decimalValue? {c : Char} {d : ℕ} (h : Text.decimalValue? c = some d) :
    asciiChar c = Nat.digitChar d := by
  have hd := Text.decimalValue?_lt h
  unfold asciiChar
  split_ifs with hascii hblank
  · have hlatin : ∀ start ∈ Text.zeroDigits, start < 128 → start = 48 := by decide
    obtain ⟨start, hstart, hc⟩ := exists_zero_of_decimalValue? h
    have hfirst := hlatin start hstart (by omega)
    apply Char.toNat_inj.mp
    rw [Nat.toNat_digitChar_of_lt_ten hd, hc, hfirst]
  · rw [isBlank_eq_false h] at hblank
    cases hblank
  · rw [h]
    rfl

theorem isDigit_of_mem_toAscii {s : Text} (h : ∀ c ∈ s, IsDecimal c) :
    ∀ c ∈ toAscii s, c.isDigit = true := by
  rw [toAscii_eq_map, List.forall_mem_map]
  intro c hc
  obtain ⟨d, hd⟩ := Option.isSome_iff_exists.mp (h c hc)
  rw [asciiChar_of_decimalValue? hd, Char.isDigit_iff_toNat,
    Nat.toNat_digitChar_of_lt_ten (Text.decimalValue?_lt hd)]
  have hlt := Text.decimalValue?_lt hd
  change 48 ≤ 48 + d ∧ 48 + d ≤ 57
  omega

theorem ofDigits_toAscii {s : Text} (h : ∀ c ∈ s, IsDecimal c) :
    ofDigits (toAscii s) = digitsValue s := by
  rw [ofDigits, Nat.ofDigitChars_eq_foldl, toAscii_eq_map, List.foldl_map, digitsValue]
  refine List.foldl_ext _ _ 0 fun n c hc => ?_
  obtain ⟨d, hd⟩ := Option.isSome_iff_exists.mp (h c hc)
  rw [asciiChar_of_decimalValue? hd, Nat.toNat_digitChar_of_lt_ten (Text.decimalValue?_lt hd), hd]
  change 10 * n + (48 + d - 48) = 10 * n + d
  omega

theorem toNat_asciiChar_le {c : Char} (h : Text.isBlank c = true) : (asciiChar c).toNat ≤ 32 := by
  unfold asciiChar
  split_ifs with hascii
  · simp only [Text.isBlank, Text.inRanges, Text.blankRanges, List.any_cons, List.any_nil,
      Bool.or_eq_true, Bool.and_eq_true, decide_eq_true_eq, Bool.false_eq_true, or_false] at h
    omega
  · decide

end Numeral

namespace Exponent

theorem toAscii_text (e : Exponent) :
    toAscii e.text = e.mark :: (e.sign ++ toAscii e.digits) := by
  have hmark : asciiChar e.mark = e.mark := by
    rcases e.isMark with h | h <;> rw [h] <;> rfl
  rw [text, toAscii_eq_map, List.map_cons, hmark, ← toAscii_eq_map, toAscii_append,
    toAscii_sign e.isSign]

theorem exponent?_toAscii (e : Exponent) : exponent? (toAscii e.text) = some e.value := by
  have hds : isDigits (toAscii e.digits) = true := by
    rw [isDigits_iff]
    exact ⟨List.map_eq_nil_iff.not.mpr e.ne_nil, isDigit_of_mem_toAscii e.isDecimal⟩
  rw [toAscii_text, exponent?_append e.isMark e.isSign hds, ofDigits_toAscii e.isDecimal, value]

end Exponent

namespace Spelling

/-- A numeral without its sign and without the white space around it, in ASCII. -/
def asciiBody (p : Spelling) : Text :=
  toAscii p.whole ++ (pointed (p.fraction.map toAscii) ++
    toAscii (p.exponent.elim [] Exponent.text))

theorem toAscii_text (p : Spelling) : toAscii p.text =
    toAscii p.before ++ ((p.sign ++ p.asciiBody) ++ toAscii p.after) := by
  simp only [text, asciiBody, toAscii_append, toAscii_sign p.isSign, toAscii_pointed]

/-- Whether the white space around a numeral is such as a numeral may have around it in ASCII. White
space beyond ASCII becomes a space; the four information separators stay what they are. -/
def IsSpaced (p : Spelling) : Prop :=
  ∀ c ∈ toAscii (p.before ++ p.after), Text.isSpacing c = true

theorem isSpaced_iff (p : Spelling) : p.IsSpaced ↔
    (∀ c ∈ toAscii p.before, Text.isSpacing c = true) ∧
      ∀ c ∈ toAscii p.after, Text.isSpacing c = true := by
  rw [IsSpaced, toAscii_append, List.forall_mem_append]

/-- A reader that takes spacing and visible characters only finds no separators. -/
theorem isSpaced_of_forall (p : Spelling)
    (h : ∀ c ∈ toAscii p.text, Text.isSpacing c = true ∨ 32 < c.toNat) : p.IsSpaced := by
  have hmargin : ∀ c ∈ toAscii (p.before ++ p.after), c.toNat ≤ 32 := by
    rw [toAscii_eq_map, List.forall_mem_map]
    exact fun c hc => toNat_asciiChar_le (p.isBlank c hc)
  intro c hc
  have hmem : c ∈ toAscii p.text := by
    rw [toAscii_text, List.mem_append, List.mem_append]
    rw [toAscii_append, List.mem_append] at hc
    exact hc.imp_right Or.inr
  exact (h c hmem).resolve_right (not_lt.mpr (hmargin c hc))

theorem magnitude?_asciiBody (p : Spelling) : magnitude? p.asciiBody = some p.magnitude := by
  have hexponent : exponent? (toAscii (p.exponent.elim [] Exponent.text)) =
      some (p.exponent.elim 0 Exponent.value) := by
    cases p.exponent with
    | none => rfl
    | some e => exact e.exponent?_toAscii
  have hfraction : (p.fraction.map toAscii).getD [] = toAscii (p.fraction.getD []) := by
    cases p.fraction <;> rfl
  have hdigits := isDigit_of_mem_toAscii p.isDecimal
  have hne : toAscii (p.whole ++ p.fraction.getD []) ≠ [] := List.map_eq_nil_iff.not.mpr p.ne_nil
  have hvalue := ofDigits_toAscii p.isDecimal
  rw [toAscii_append, ← hfraction] at hdigits hne hvalue
  rw [asciiBody, magnitude?_append hdigits hne hexponent, hvalue, hfraction, toAscii_eq_map,
    List.length_map, magnitude]

/-- A numeral is rounded to a binary number, unless there are separators around it. -/
theorem readFloat?_eq_some_iff (p : Spelling) (x : Binary64) :
    readFloat? p.text = some x ↔
      p.IsSpaced ∧ x = Binary64.ofScientific p.negative p.magnitude := by
  have hread (h : p.IsSpaced) :
      readFloat? p.text = some (Binary64.ofScientific p.negative p.magnitude) := by
    obtain ⟨hbefore, hafter⟩ := p.isSpaced_iff.mp h
    rw [readFloat?, toAscii_text,
      asciiFloat?_append hbefore p.isSign p.magnitude?_asciiBody hafter, negative]
  constructor
  · intro h
    have hspaced := p.isSpaced_of_forall (chars_of_asciiFloat?_eq_some h)
    exact ⟨hspaced, Option.some.inj (h.symm.trans (hread hspaced))⟩
  · rintro ⟨hspaced, rfl⟩
    exact hread hspaced

/-- An integer as it is written. -/
theorem truncated_value (p : Spelling) (hfraction : p.fraction = none)
    (hexponent : p.exponent = none) : truncated p.value =
      if p.sign = ['-'] then -(digitsValue p.whole : ℤ) else digitsValue p.whole := by
  have hmagnitude : p.magnitude.value = digitsValue p.whole := by
    simp [magnitude, Scientific.value, hfraction, hexponent]
  rw [value, truncated_signed _ p.magnitude.value_nonneg, hmagnitude, Nat.floor_natCast, negative]
  simp only [decide_eq_true_eq]

theorem readInteger_text {p : Spelling} (hspaced : p.IsSpaced) (hfraction : p.fraction = none)
    (hexponent : p.exponent = none) :
    readInteger p.text = if digitLimit < p.whole.length then .error (.tooLong p.whole.length)
      else .ok (truncated p.value) := by
  obtain ⟨hbefore, hafter⟩ := p.isSpaced_iff.mp hspaced
  have hdecimal := p.isDecimal
  have hne := p.ne_nil
  rw [hfraction, Option.getD_none, List.append_nil] at hdecimal hne
  have hds : isDigits (toAscii p.whole) = true :=
    isDigits_iff.mpr ⟨List.map_eq_nil_iff.not.mpr hne, isDigit_of_mem_toAscii hdecimal⟩
  have hbody : p.asciiBody = toAscii p.whole := by
    rw [asciiBody, hfraction, hexponent]
    exact List.append_nil _
  rw [readInteger, toAscii_text, hbody, List.append_assoc p.sign,
    asciiInteger_append hbefore p.isSign hds hafter, ofDigits_toAscii hdecimal,
    truncated_value p hfraction hexponent, toAscii_eq_map, List.length_map]

/-- A point and the mark of an exponent are no characters of an integer. -/
theorem parts_of_readInteger_eq_ok {p : Spelling} {n : ℤ} (h : readInteger p.text = .ok n) :
    p.IsSpaced ∧ p.fraction = none ∧ p.exponent = none := by
  have hchars := chars_of_asciiInteger_eq_ok h
  have hbody : ∀ c ∈ p.asciiBody, c ≠ '.' ∧ c ≠ 'e' ∧ c ≠ 'E' := by
    intro c hc
    have hmem : c ∈ toAscii p.text := by
      rw [toAscii_text]
      exact List.mem_append_right _ (List.mem_append_left _ (List.mem_append_right _ hc))
    refine ⟨?_, ?_, ?_⟩
    · rintro rfl
      exact absurd (hchars '.' hmem) (by decide)
    · rintro rfl
      exact absurd (hchars 'e' hmem) (by decide)
    · rintro rfl
      exact absurd (hchars 'E' hmem) (by decide)
  refine ⟨p.isSpaced_of_forall fun c hc => (hchars c hc).imp_right ?_, ?_, ?_⟩
  · rintro (rfl | rfl | rfl | hdigit)
    · decide
    · decide
    · decide
    · exact (isVisible_of_isDigit hdigit).1
  · cases hfraction : p.fraction with
    | none => rfl
    | some fraction =>
      refine absurd rfl (hbody '.' ?_).1
      rw [asciiBody, hfraction]
      exact List.mem_append_right _ List.mem_cons_self
  · cases hexponent : p.exponent with
    | none => rfl
    | some e =>
      have hmark : e.mark ∈ p.asciiBody := by
        rw [asciiBody, hexponent, Option.elim_some, e.toAscii_text]
        exact List.mem_append_right _ (List.mem_append_right _ List.mem_cons_self)
      rcases e.isMark with hsmall | hcapital
      · exact absurd hsmall (hbody _ hmark).2.1
      · exact absurd hcapital (hbody _ hmark).2.2

/-- The integer reader takes the numerals without a point and without an exponent, up to the digit
limit, and gives their value. -/
theorem readInteger?_eq_some_iff (p : Spelling) (n : ℤ) :
    readInteger? p.text = some n ↔ p.IsSpaced ∧ p.IsInteger ∧ n = truncated p.value := by
  constructor
  · intro h
    have hok : readInteger p.text = .ok n := by
      rw [readInteger?] at h
      cases hread : readInteger p.text with
      | error fault => rw [hread] at h; cases h
      | ok m => rw [hread] at h; cases h; rfl
    obtain ⟨hspaced, hfraction, hexponent⟩ := parts_of_readInteger_eq_ok hok
    rw [readInteger_text hspaced hfraction hexponent] at hok
    split_ifs at hok with hlong
    exact ⟨hspaced, ⟨hfraction, hexponent, not_lt.mp hlong⟩, (Except.ok.inj hok).symm⟩
  · rintro ⟨hspaced, ⟨hfraction, hexponent, hlength⟩, rfl⟩
    rw [readInteger?, readInteger_text hspaced hfraction hexponent, if_neg (not_lt.mpr hlength)]
    rfl

/-- An integer within the digit limit can be written. -/
theorem isWritable_truncated {p : Spelling} (h : p.IsInteger) :
    isWritable (truncated p.value) = true := by
  obtain ⟨hfraction, hexponent, hlength⟩ := h
  have hvalue : (truncated p.value).natAbs = digitsValue p.whole := by
    rw [truncated_value p hfraction hexponent]
    split_ifs
    · rw [Int.natAbs_neg, Int.natAbs_natCast]
    · exact Int.natAbs_natCast _
  have hne := p.ne_nil
  rw [hfraction, Option.getD_none, List.append_nil] at hne
  rw [isWritable_iff_length_digits_le, hvalue]
  exact ((Nat.length_toDigits_le_iff (by decide) (List.length_pos_iff.mpr hne)).mpr
    (digitsValue_lt p.whole)).trans hlength

/-- Whether a text is an integer does not depend on how it is taken apart. -/
theorem isInteger_of_text_eq {p p' : Spelling} (hspaced : p.IsSpaced) (hp : p.IsInteger)
    (h : p.text = p'.text) : p'.IsInteger := by
  have hread := (p.readInteger?_eq_some_iff _).mpr ⟨hspaced, hp, rfl⟩
  rw [h] at hread
  exact ((p'.readInteger?_eq_some_iff _).mp hread).2.1

end Spelling

end QueryTemplate.Number
