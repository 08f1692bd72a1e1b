import QueryTemplate.Number.Binary64

/-!
Binary numbers in a fixed number of significant digits. The step of the last digit follows from the
leading one; the magnitude goes to the nearest multiple of that step, a half away from zero.
-/

namespace QueryTemplate.Number

/-- A quotient to the nearest whole number, a half upwards. -/
def divHalfUp (num den : Nat) : Nat := (2 * num + den) / (2 * den)

/-- A magnitude to so many significant digits, without the zeros at their end. -/
def Dyadic.rounded (places : Nat) (x : Dyadic) : Scientific :=
  if x.mantissa = 0 then ⟨0, 0⟩
  else
    let (num, den) := x.ratio
    let step := leadingExponent num den + 1 - places
    Scientific.reduce
      ⟨divHalfUp (num * Nat.pow 10 (-step).toNat) (den * Nat.pow 10 step.toNat), step⟩

end QueryTemplate.Number
