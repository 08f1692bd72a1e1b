import QueryTemplate.Text.Surrogate

/-!
The encoding of a JSON document. A byte order mark names it; without one it follows from where
the zero bytes lie among the first four, since a document begins with two ASCII characters. In every
encoding the half of a surrogate pair may stand alone.
-/

namespace QueryTemplate.Json

inductive Encoding where
  | utf8
  | utf16 (bigEndian : Bool)
  | utf32 (bigEndian : Bool)
  deriving DecidableEq, Repr

namespace Encoding

def detect : List UInt8 → Encoding × List UInt8
  | 0x00 :: 0x00 :: 0xFE :: 0xFF :: rest => (.utf32 true, rest)
  | 0xFF :: 0xFE :: 0x00 :: 0x00 :: rest => (.utf32 false, rest)
  | 0xFE :: 0xFF :: rest => (.utf16 true, rest)
  | 0xFF :: 0xFE :: rest => (.utf16 false, rest)
  | 0xEF :: 0xBB :: 0xBF :: rest => (.utf8, rest)
  | data@(a :: b :: c :: d :: _) =>
    if a = 0 then (if b = 0 then .utf32 true else .utf16 true, data)
    else if b = 0 then (if c = 0 ∧ d = 0 then .utf32 false else .utf16 false, data)
    else (.utf8, data)
  | data@([a, b]) =>
    if a = 0 then (.utf16 true, data)
    else if b = 0 then (.utf16 false, data)
    else (.utf8, data)
  | data => (.utf8, data)

def pair (bigEndian : Bool) (a b : UInt8) : Nat :=
  if bigEndian then a.toNat * 256 + b.toNat else b.toNat * 256 + a.toNat

def isHigh (unit : Nat) : Bool := 0xD800 ≤ unit && unit < 0xDC00

def isLow (unit : Nat) : Bool := 0xDC00 ≤ unit && unit < 0xE000

def joined? (high low : Nat) : Option Char :=
  if isHigh high && isLow low then
    Text.ofCode? (0x10000 + (high - 0xD800) * 0x400 + (low - 0xDC00))
  else none

def units? (bigEndian : Bool) : List UInt8 → Option (List Nat)
  | [] => some []
  | [_] => none
  | a :: b :: rest => (units? bigEndian rest).map (pair bigEndian a b :: ·)

def ofUnits? : List Nat → Option Text
  | [] => some []
  | [unit] => (Text.ofCode? unit).map ([·])
  | unit :: next :: rest =>
    match joined? unit next with
    | some c => (ofUnits? rest).map (c :: ·)
    | none => do return (← Text.ofCode? unit) :: (← ofUnits? (next :: rest))

def ofWords? (bigEndian : Bool) : List UInt8 → Option Text
  | [] => some []
  | a :: b :: c :: d :: rest => do
    let high := pair bigEndian (if bigEndian then a else c) (if bigEndian then b else d)
    let low := pair bigEndian (if bigEndian then c else a) (if bigEndian then d else b)
    return (← Text.ofCode? (high * 0x10000 + low)) :: (← ofWords? bigEndian rest)
  | _ => none

/-- The six bits of a byte that goes on with a character. -/
def sixBits? (byte : UInt8) : Option Nat :=
  if 0x80 ≤ byte && byte < 0xC0 then some (byte.toNat - 0x80) else none

/-- The character for a code point that takes no fewer bytes than it was given. -/
def ofCodeFrom? (least code : Nat) : Option Char :=
  if least ≤ code then Text.ofCode? code else none

def ofUtf8? : List UInt8 → Option Text
  | [] => some []
  | a :: rest =>
    if a < 0x80 then (ofUtf8? rest).map (Char.ofNat a.toNat :: ·)
    else if a < 0xC0 then none
    else match rest with
      | [] => none
      | b :: rest =>
        if a < 0xE0 then do
          let c ← ofCodeFrom? 0x80 ((a.toNat - 0xC0) * 0x40 + (← sixBits? b))
          return c :: (← ofUtf8? rest)
        else match rest with
          | [] => none
          | c :: rest =>
            if a < 0xF0 then do
              let c ← ofCodeFrom? 0x800
                (((a.toNat - 0xE0) * 0x40 + (← sixBits? b)) * 0x40 + (← sixBits? c))
              return c :: (← ofUtf8? rest)
            else match rest with
              | [] => none
              | d :: rest => do
                let c ← ofCodeFrom? 0x10000 ((((a.toNat - 0xF0) * 0x40 + (← sixBits? b)) * 0x40 +
                  (← sixBits? c)) * 0x40 + (← sixBits? d))
                return c :: (← ofUtf8? rest)

def decode? : Encoding → List UInt8 → Option Text
  | .utf8, data => ofUtf8? data
  | .utf16 bigEndian, data => (units? bigEndian data).bind ofUnits?
  | .utf32 bigEndian, data => ofWords? bigEndian data

end Encoding

def textOf? (data : List UInt8) : Option Text :=
  let (encoding, rest) := Encoding.detect data
  encoding.decode? rest

end QueryTemplate.Json
