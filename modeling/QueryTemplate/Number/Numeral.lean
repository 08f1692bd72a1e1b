import QueryTemplate.Number.Binary64
import QueryTemplate.Text.Blank
import QueryTemplate.Text.DecimalDigit

/-!
Reading numbers. A numeral may be surrounded by white space and may use the decimal digits of any
script; `toAscii` brings it to ASCII first. Low lines may separate digits, one at a time.
-/

namespace QueryTemplate.Number

namespace Numeral

/-- Whether every low line stands between two digits. -/
def separatesDigits : (previous : Char) → Text → Bool
  | _, [] => true
  | previous, '_' :: rest =>
    previous.isDigit && (rest.head?.any Char.isDigit) && separatesDigits '_' rest
  | _, c :: rest => separatesDigits c rest

/-- A numeral in ASCII, with blanks and digits of other scripts replaced. Any other character
beyond ASCII gives way to a question mark, which no numeral holds. -/
def toAscii (s : Text) : Text :=
  s.map fun c =>
    if c.toNat < 128 then c
    else if Text.isBlank c then ' '
    else ((Text.decimalValue? c).map Nat.digitChar).getD '?'

def splitSign : Text → Bool × Text
  | '-' :: rest => (true, rest)
  | '+' :: rest => (false, rest)
  | s => (false, s)

def isDigits (s : Text) : Bool := !s.isEmpty && s.all Char.isDigit

/-- What may follow the digits of a magnitude: nothing, or an exponent. -/
def exponent? : Text → Option Int
  | [] => some 0
  | c :: rest =>
    let (negative, ds) := splitSign rest
    if (c = 'e' || c = 'E') && isDigits ds then
      some (if negative then -(ofDigits ds : Int) else ofDigits ds)
    else none

/-- A magnitude in decimal: digits with a point anywhere among them or none, then perhaps an
exponent. -/
def magnitude? (s : Text) : Option Scientific :=
  let whole := s.takeWhile Char.isDigit
  let tail := s.dropWhile Char.isDigit
  let (fraction, tail) := match tail with
    | '.' :: rest => (rest.takeWhile Char.isDigit, rest.dropWhile Char.isDigit)
    | _ => ([], tail)
  if whole.isEmpty && fraction.isEmpty then none
  else (exponent? tail).map fun e => ⟨ofDigits (whole ++ fraction), e - fraction.length⟩

inductive Fault where
  | malformed
  /-- Its row of digits is too long. What follows the row has not been looked at. -/
  | tooLong (digits : Nat)
  deriving DecidableEq, Repr

def asciiInteger (s : Text) : Except Fault Int :=
  let (negative, body) := splitSign (s.dropWhile Text.isSpacing)
  let inRow (c : Char) : Bool := c.isDigit || c = '_'
  let row := body.takeWhile inRow
  let ds := row.filter Char.isDigit
  if ds.isEmpty || !separatesDigits '_' row then .error .malformed
  else if digitLimit < ds.length then .error (.tooLong ds.length)
  else if (body.dropWhile inRow).all Text.isSpacing then
    .ok (if negative then -(ofDigits ds : Int) else ofDigits ds)
  else .error .malformed

/-- The binary number that an ASCII numeral denotes; infinity and NaN have names. -/
def asciiFloat? (s : Text) : Option Binary64 :=
  if separatesDigits '_' s then
    let (negative, body) := splitSign (Text.trim Text.isSpacing (s.filter (· != '_')))
    let name := Text.toLower body
    if name = "inf".toList || name = "infinity".toList then some (.infinite negative)
    else if name = "nan".toList then some .nan
    else (magnitude? body).map (Binary64.ofScientific negative)
  else none

end Numeral

/-- The integer that a text denotes: a sign and decimal digits, `digitLimit` of them at most. -/
def readInteger (s : Text) : Except Numeral.Fault Int := Numeral.asciiInteger (Numeral.toAscii s)

def readInteger? (s : Text) : Option Int := (readInteger s).toOption

def readFloat? (s : Text) : Option Binary64 := Numeral.asciiFloat? (Numeral.toAscii s)

end QueryTemplate.Number
