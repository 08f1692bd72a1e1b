import QueryTemplate.Number.Binary64

/-!
The fewest decimal digits that read back as a given binary number. The reals that round to a
number form an interval around it, ends included when its mantissa is even. `shortest` tries the
grids of one, two, three and more digits in turn and looks at the number's two neighbours on each:
if any point of a grid lies in the interval, one of these two does. Of two hits the nearer is
taken, a tie goes to the even digit.
-/

namespace QueryTemplate.Number

/-- The interval of reals that round to a number, in quarters of the last place: `value`, `low` and
`high` are multiples of `num / den`. -/
structure Interval where
  low : Nat
  value : Nat
  high : Nat
  closed : Bool
  num : Nat
  den : Nat

namespace Interval

/-- The interval around a magnitude. Below a power of two the numbers lie twice as dense. -/
def ofDyadic (x : Dyadic) : Interval :=
  let below := if x.mantissa = Nat.pow 2 52 ∧ x.exponent ≠ -1074 then 1 else 2
  let quarter := x.exponent - 2
  ⟨4 * x.mantissa - below, 4 * x.mantissa, 4 * x.mantissa + 2, x.mantissa % 2 = 0,
    Nat.pow 2 quarter.toNat, Nat.pow 2 (-quarter).toNat⟩

/-- The point of the grid of step `10 ^ k` that lies in the interval nearest to its value. -/
def gridPoint? (i : Interval) (k : Int) : Option Nat :=
  let num := i.num * Nat.pow 10 (-k).toNat
  let den := i.den * Nat.pow 10 k.toNat
  let below := i.value * num / den
  let rest := i.value * num % den
  let ordered (a b : Nat) : Bool := if i.closed then a ≤ b else a < b
  match ordered (i.low * num) (below * den), ordered ((below + 1) * den) (i.high * num) with
  | true, true =>
    some (if 2 * rest < den || (2 * rest = den && below % 2 = 0) then below else below + 1)
  | true, false => some below
  | false, true => some (below + 1)
  | false, false => none

/-- The first grid with a hit, from the step `10 ^ k` down, `tries` grids at most. -/
def search (i : Interval) : Nat → Int → Scientific
  | 0, k => ⟨i.value * (i.num * Nat.pow 10 (-k).toNat) / (i.den * Nat.pow 10 k.toNat), k⟩
  | tries + 1, k =>
    match i.gridPoint? k with
    | some point => ⟨point, k⟩
    | none => search i tries (k - 1)

end Interval

namespace Dyadic

/-- The decimal magnitude with the fewest digits that rounds to this one. Seventeen digits always
suffice. -/
def shortest (x : Dyadic) : Scientific :=
  if x.mantissa = 0 then ⟨0, 0⟩
  else ((Interval.ofDyadic x).search 17 (leadingExponent x.ratio.1 x.ratio.2)).reduce

end Dyadic

namespace Binary64

/-- Magnitudes from `10 ^ (-4)` to `10 ^ 16` are written without an exponent, whole numbers keep a
point, and exponents have a sign and two digits at least. -/
def style : Scientific.Style where
  positional x := -4 ≤ x.adjusted && x.adjusted < 16
  keepsPoint := true
  keepsPointBeforeMark := false
  mark := 'e'
  exponentWidth := 2

def text : Binary64 → Text
  | .nan => "nan".toList
  | .infinite negative => (if negative then ['-'] else []) ++ "inf".toList
  | .finite negative x => (if negative then ['-'] else []) ++ x.shortest.text style

end Binary64

end QueryTemplate.Number
