import QueryTemplate.Text.Basic

/-!
Whole numbers in decimal digits. A numeral of more than `digitLimit` digits is neither written nor
read, so `intText?` gives a text exactly to the integers within the limit.
-/

namespace QueryTemplate.Number

def digits (n : Nat) : Text := Nat.toDigits 10 n

def ofDigits (s : Text) : Nat := Nat.ofDigitChars 10 s 0

theorem ofDigits_digits (n : Nat) : ofDigits (digits n) = n :=
  Nat.ofDigitChars_ten_toDigits

theorem length_digits_pos (n : Nat) : 0 < (digits n).length :=
  Nat.length_toDigits_pos

/-- The most digits that an integer may have to be written or read. -/
def digitLimit : Nat := 4300

def intText : Int → Text
  | .ofNat n => digits n
  | .negSucc n => '-' :: digits (n + 1)

def isWritable (n : Int) : Bool := n.natAbs < Nat.pow 10 digitLimit

theorem isWritable_iff_length_digits_le (n : Int) :
    isWritable n = true ↔ (digits n.natAbs).length ≤ digitLimit := by
  rw [isWritable, decide_eq_true_iff, Nat.pow_eq]
  exact (Nat.length_toDigits_le_iff (by decide) (by decide)).symm

theorem isWritable_one : isWritable 1 = true := by decide +kernel

def intText? (n : Int) : Option Text :=
  if isWritable n then some (intText n) else none

theorem intText?_eq_some_iff {n : Int} {t : Text} :
    intText? n = some t ↔ isWritable n = true ∧ intText n = t := by
  rw [intText?, Option.ite_none_right_eq_some, Option.some.injEq]

/-- How many tens the leading digit of `num / den` stands for: `e` with
`10 ^ e ≤ num / den < 10 ^ (e + 1)`. Both numbers are positive. -/
def leadingExponent (num den : Nat) : Int :=
  let e : Int := (digits num).length - (digits den).length
  if den * Nat.pow 10 e.toNat ≤ num * Nat.pow 10 (-e).toNat then e else e - 1

end QueryTemplate.Number
