import QueryTemplate.Text.Basic

/-!
Surrogates that stand alone. A text may hold the half of a surrogate pair without its other half,
and no character has the code point of one. The characters for private use that have the same place
in the last plane stand for them, and for nothing else. A text with such a half can be escaped,
shown and read from JSON, but it has no UTF-8.
-/

namespace QueryTemplate.Text

def isSurrogate (code : Nat) : Bool := 0xD800 ≤ code && code < 0xE000

/-- Where the last plane begins. -/
def lastPlane : Nat := 0x100000

/-- The character for a code point. -/
def ofCode? (code : Nat) : Option Char :=
  if isSurrogate code then some (Char.ofNat (lastPlane + code))
  else if code.isValidChar then some (Char.ofNat code)
  else none

def isLone (c : Char) : Bool := lastPlane ≤ c.toNat && isSurrogate (c.toNat - lastPlane)

/-- The code point that a character stands for. -/
def code (c : Char) : Nat := if isLone c then c.toNat - lastPlane else c.toNat

/-- Surrogates next to each other in a text: the code point of the first one, and the places of the
first one and of the last. -/
structure LoneRow where
  code : Nat
  first : Nat
  last : Nat
  deriving DecidableEq, Repr

/-- The surrogates that keep a text from being encoded: the first one, and those right after it. -/
def firstLone? (s : Text) : Option LoneRow :=
  let first := (s.takeWhile fun c => !isLone c).length
  match s.drop first with
  | [] => none
  | c :: rest => some ⟨code c, first, first + (rest.takeWhile isLone).length⟩

end QueryTemplate.Text
