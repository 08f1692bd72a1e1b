import QueryTemplate.Number.Scientific

/-!
Binary floating point numbers of 64 bits, as exact dyadic fractions. `roundRatio` takes a fraction
to the nearest of them, a tie to the one with an even mantissa; everything else (reading a decimal,
taking an integer in, dropping the fraction) is exact arithmetic on whole numbers.
-/

namespace QueryTemplate.Number

/-- A quotient to the nearest whole number, a half to the even neighbour. -/
def divHalfEven (num den : Nat) : Nat :=
  let q := num / den
  let twice := 2 * (num % den)
  if den < twice || (twice = den && q % 2 = 1) then q + 1 else q

/-- A mantissa and exponent in normal form: 53 bits at most, the exponent in range, and the
leading bit set unless the exponent is the least one. -/
def IsCanonical (mantissa : Nat) (exponent : Int) : Prop :=
  mantissa < Nat.pow 2 53 ∧ -1074 ≤ exponent ∧ exponent ≤ 971 ∧
    (Nat.pow 2 52 ≤ mantissa ∨ exponent = -1074)

instance (mantissa : Nat) (exponent : Int) : Decidable (IsCanonical mantissa exponent) :=
  inferInstanceAs (Decidable (_ ∧ _))

/-- The magnitude `mantissa * 2 ^ exponent` of a finite number. -/
structure Dyadic where
  mantissa : Nat
  exponent : Int
  isCanonical : IsCanonical mantissa exponent
  deriving DecidableEq

/-- A binary floating point number. Zero has a sign; all NaN are one. -/
inductive Binary64 where
  | nan
  | infinite (negative : Bool)
  | finite (negative : Bool) (magnitude : Dyadic)
  deriving DecidableEq

namespace Dyadic

def ratio (x : Dyadic) : Nat × Nat :=
  (x.mantissa * Nat.pow 2 x.exponent.toNat, Nat.pow 2 (-x.exponent).toNat)

def floor (x : Dyadic) : Nat := x.ratio.1 / x.ratio.2

end Dyadic

namespace Binary64

/-- The mantissa and exponent nearest to `num / den`; the exponent may be beyond the range. -/
def roundRatio (num den : Nat) : Nat × Int :=
  if num = 0 then (0, -1074) else
    let scaled (q : Int) : Nat × Nat := (num * Nat.pow 2 (-q).toNat, den * Nat.pow 2 q.toNat)
    let low : Int := max (-1074) (Nat.log2 num - Nat.log2 den - 53)
    let q := if Nat.pow 2 53 ≤ (scaled low).1 / (scaled low).2 then low + 1 else low
    let mantissa := divHalfEven (scaled q).1 (scaled q).2
    if mantissa = Nat.pow 2 53 then (Nat.pow 2 52, q + 1) else (mantissa, q)

/-- The number with this sign, mantissa and exponent; beyond the range it is infinite. -/
def ofParts (negative : Bool) (parts : Nat × Int) : Binary64 :=
  if h : IsCanonical parts.1 parts.2 then .finite negative ⟨parts.1, parts.2, h⟩
  else .infinite negative

def ofRatio (negative : Bool) (num den : Nat) : Binary64 :=
  ofParts negative (roundRatio num den)

def ofInt (n : Int) : Binary64 := ofRatio (n < 0) n.natAbs 1

/-- The number nearest to a decimal magnitude. Above `10 ^ 310` all are infinite and below
`10 ^ (-330)` all are zero, whatever their digits. -/
def ofScientific (negative : Bool) (x : Scientific) : Binary64 :=
  let leading := x.adjusted
  if x.coefficient = 0 || leading < -330 then ofRatio negative 0 1
  else if 310 < leading then .infinite negative
  else
    ofRatio negative (x.coefficient * Nat.pow 10 x.exponent.toNat) (Nat.pow 10 (-x.exponent).toNat)

def isFinite : Binary64 → Bool
  | .finite .. => true
  | _ => false

def truncate? : Binary64 → Option Int
  | .finite negative x => some (if negative then -(x.floor : Int) else x.floor)
  | _ => none

end Binary64

end QueryTemplate.Number
