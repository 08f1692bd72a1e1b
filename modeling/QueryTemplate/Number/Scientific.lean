import QueryTemplate.Number.Digits

/-!
Magnitudes `coefficient * 10 ^ exponent` and the ways to write them. A `Style` holds what differs
between the kinds of number: which magnitudes are written without an exponent, whether a whole
number keeps a point, and how an exponent is marked.
-/

namespace QueryTemplate.Number

/-- The magnitude `coefficient * 10 ^ exponent`. -/
structure Scientific where
  coefficient : Nat
  exponent : Int
  deriving DecidableEq, Repr, Inhabited

namespace Scientific

/-- The exponent of the leading digit. -/
def adjusted (x : Scientific) : Int :=
  x.exponent + (digits x.coefficient).length - 1

structure Style where
  positional : Scientific → Bool
  /-- Whether a whole number in positional form ends in a point and a zero. -/
  keepsPoint : Bool
  /-- Whether a single digit in front of an exponent is followed by a point and a zero. -/
  keepsPointBeforeMark : Bool
  mark : Char
  /-- The fewest digits of an exponent. -/
  exponentWidth : Nat

def positionalText (keepsPoint : Bool) (x : Scientific) : Text :=
  let ds := digits x.coefficient
  let whole := x.exponent + ds.length
  if 0 ≤ x.exponent then
    ds ++ List.replicate x.exponent.toNat '0' ++ if keepsPoint then ['.', '0'] else []
  else if whole ≤ 0 then
    ['0', '.'] ++ List.replicate (-whole).toNat '0' ++ ds
  else
    ds.take whole.toNat ++ '.' :: ds.drop whole.toNat

def exponentText (width : Nat) (e : Int) : Text :=
  let ds := digits e.natAbs
  (if e < 0 then '-' else '+') :: (List.replicate (width - ds.length) '0' ++ ds)

def exponentialText (keepsPoint : Bool) (mark : Char) (width : Nat) (x : Scientific) : Text :=
  let ds := digits x.coefficient
  let fraction :=
    if 1 < ds.length then '.' :: ds.drop 1 else if keepsPoint then ['.', '0'] else []
  ds.take 1 ++ fraction ++ mark :: exponentText width x.adjusted

def text (style : Style) (x : Scientific) : Text :=
  if style.positional x then positionalText style.keepsPoint x
  else exponentialText style.keepsPointBeforeMark style.mark style.exponentWidth x

def reduce (x : Scientific) : Scientific :=
  if h : x.coefficient ≠ 0 ∧ x.coefficient % 10 = 0 then
    reduce ⟨x.coefficient / 10, x.exponent + 1⟩
  else x
termination_by x.coefficient
decreasing_by
  show x.coefficient / 10 < x.coefficient
  omega

/-- Whether two magnitudes are equal. Magnitudes whose leading digits stand for different powers
of ten differ, so numbers far apart are never brought to one scale. -/
def same (x y : Scientific) : Bool :=
  if x.coefficient = 0 || y.coefficient = 0 then x.coefficient = y.coefficient
  else x.adjusted = y.adjusted &&
    x.coefficient * Nat.pow 10 (x.exponent - y.exponent).toNat
      = y.coefficient * Nat.pow 10 (y.exponent - x.exponent).toNat

/-- Whether a magnitude is the whole number `num` divided by `den`, which is not zero. -/
def isRatio (x : Scientific) (num den : Nat) : Bool :=
  if x.coefficient = 0 || num = 0 then x.coefficient = num
  else x.adjusted = leadingExponent num den &&
    x.coefficient * Nat.pow 10 x.exponent.toNat * den = num * Nat.pow 10 (-x.exponent).toNat

/-- The whole part of a magnitude; one whose leading digit stands right of the point has none. -/
def floor (x : Scientific) : Nat :=
  if x.coefficient = 0 || x.adjusted < 0 then 0
  else x.coefficient * Nat.pow 10 x.exponent.toNat / Nat.pow 10 (-x.exponent).toNat

end Scientific

end QueryTemplate.Number
