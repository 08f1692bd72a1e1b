import QueryTemplate.Text.Printable
import QueryTemplate.Text.Surrogate
import QueryTemplate.Number.Digits

/-!
Texts and bytes as they are shown inside a message: between quotes, with escapes for the quote,
the backslash and everything that has no printed form. The single quote is preferred; the double
one stands around a text that holds single quotes only.
-/

namespace QueryTemplate.Text

/-- A number in hexadecimal with small letters, filled up with zeros to the given width. -/
def hex (width n : Nat) : Text :=
  let ds := Nat.toDigits 16 n
  List.replicate (width - ds.length) '0' ++ ds

/-- The escape of a character that is not shown as it is: the shortest form that holds its code
point. -/
def codeEscape (c : Char) : Text :=
  let n := code c
  if n < 0x100 then '\\' :: 'x' :: hex 2 n
  else if n < 0x10000 then '\\' :: 'u' :: hex 4 n
  else '\\' :: 'U' :: hex 8 n

def shownChar (quote c : Char) : Text :=
  if c = quote || c = '\\' then ['\\', c]
  else if c = '\n' then ['\\', 'n']
  else if c = '\r' then ['\\', 'r']
  else if c = '\t' then ['\\', 't']
  else if isPrintable c then [c]
  else codeEscape c

def quoteFor (s : Text) : Char :=
  if s.contains '\'' && !s.contains '"' then '"' else '\''

def quoted (s : Text) : Text :=
  let quote := quoteFor s
  quote :: s.flatMap (shownChar quote) ++ [quote]

/-- Bytes between quotes, marked with a `b`. Bytes of ASCII are shown as characters. -/
def quotedBytes (data : List UInt8) : Text :=
  let s := data.map fun byte => Char.ofNat byte.toNat
  let quote := quoteFor s
  let shown (c : Char) : Text := if c.toNat < 0x80 then shownChar quote c else codeEscape c
  'b' :: quote :: s.flatMap shown ++ [quote]

end QueryTemplate.Text
