import QueryTemplate.Number.Decimal

/-!
Sizes of numbers across the kinds of number, and when two of them are the same size. The
comparison is exact: nothing is rounded on the way.
-/

namespace QueryTemplate.Number

/-- The size of a number: a quotient of whole numbers, a decimal magnitude, or infinity. -/
inductive Magnitude where
  | ratio (num den : Nat)
  | decimal (x : Scientific)
  | infinite
  deriving DecidableEq

namespace Magnitude

def same : Magnitude → Magnitude → Bool
  | .ratio a b, .ratio c d => a * d = c * b
  | .ratio a b, .decimal x => x.isRatio a b
  | .decimal x, .ratio a b => x.isRatio a b
  | .decimal x, .decimal y => x.same y
  | .infinite, .infinite => true
  | _, _ => false

def isZero : Magnitude → Bool
  | .ratio num _ => num = 0
  | .decimal x => x.coefficient = 0
  | .infinite => false

end Magnitude

/-- A number as its sign and its size; NaN has none. -/
abbrev Signed := Bool × Magnitude

/-- Whether two numbers are equal. Zero equals zero whatever the signs. -/
def Signed.same (x y : Signed) : Bool :=
  x.2.same y.2 && (x.1 == y.1 || x.2.isZero)

def intSize (n : Int) : Signed := (n < 0, .ratio n.natAbs 1)

def Binary64.size? : Binary64 → Option Signed
  | .nan => none
  | .infinite negative => some (negative, .infinite)
  | .finite negative x => some (negative, .ratio x.ratio.1 x.ratio.2)

def Decimal.size? : Decimal → Option Signed
  | .nan .. => none
  | .infinite negative => some (negative, .infinite)
  | .finite negative x => some (negative, .decimal x)

end QueryTemplate.Number
