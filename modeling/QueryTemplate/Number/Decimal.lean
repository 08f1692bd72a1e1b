import QueryTemplate.Number.Numeral

/-!
Decimal numbers with all their digits, as in the General Decimal Arithmetic. Trailing zeros are
kept, zero has a sign, and a NaN may be signalling and carry a payload.
-/

namespace QueryTemplate.Number

inductive Decimal where
  | finite (negative : Bool) (magnitude : Scientific)
  | infinite (negative : Bool)
  | nan (negative signalling : Bool) (payload : Nat)
  deriving DecidableEq

namespace Decimal

/-- Numbers are written without an exponent if no digit stands left of the last one kept and at
most five zeros follow the point. An exponent has a sign. -/
def style : Scientific.Style where
  positional x := x.exponent ≤ 0 && -6 ≤ x.adjusted
  keepsPoint := false
  keepsPointBeforeMark := false
  mark := 'E'
  exponentWidth := 1

def text : Decimal → Text
  | .finite negative x => (if negative then ['-'] else []) ++ x.text style
  | .infinite negative => (if negative then ['-'] else []) ++ "Infinity".toList
  | .nan negative signalling payload =>
    (if negative then ['-'] else []) ++ (if signalling then ['s'] else []) ++ "NaN".toList ++
      (if payload = 0 then [] else digits payload)

def payload? (name s : Text) : Option Nat :=
  if name.isPrefixOf (Text.toLower s) then
    let ds := s.drop name.length
    if ds.all Char.isDigit then some (ofDigits ds) else none
  else none

def ofText? (s : Text) : Option Decimal := do
  let ascii := Numeral.toAscii ((Text.trim Text.isBlank s).filter (· != '_'))
  let (negative, body) := Numeral.splitSign ascii
  let name := Text.toLower body
  if name = "inf".toList || name = "infinity".toList then return .infinite negative
  match payload? "nan".toList body, payload? "snan".toList body with
  | some payload, _ => return .nan negative false payload
  | none, some payload => return .nan negative true payload
  | none, none => return .finite negative (← Numeral.magnitude? body)

/-- A finite number without its fraction, if it is short enough to be written. The digits are
counted first, so a number with a great exponent is never spelt out. -/
def truncate? : Decimal → Option Int
  | .finite negative x =>
    if x.coefficient = 0 || x.adjusted < digitLimit then
      some (if negative then -(x.floor : Int) else x.floor)
    else none
  | _ => none

/-- The binary number nearest to a decimal one; a signalling NaN has none. -/
def toBinary64? : Decimal → Option Binary64
  | .finite negative x => some (Binary64.ofScientific negative x)
  | .infinite negative => some (.infinite negative)
  | .nan _ signalling _ => if signalling then none else some .nan

end Decimal

end QueryTemplate.Number
