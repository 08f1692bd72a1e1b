/-!
Text as a list of characters, and sets of characters written as ranges of code points.
Templates, SQL and text arguments are all `Text`: every operation on them is a recursion on the
characters, so that it can be followed one character at a time.
-/

namespace QueryTemplate

abbrev Text := List Char

namespace Text

/-- Whether a code point lies in one of the ranges, both ends of a range included. -/
def inRanges (ranges : List (Nat × Nat)) (c : Char) : Bool :=
  ranges.any fun range => range.1 ≤ c.toNat && c.toNat ≤ range.2

def trim (p : Char → Bool) (s : Text) : Text :=
  ((s.dropWhile p).reverse.dropWhile p).reverse

/-- A text before the last place of a character and after it. -/
def splitLast? (c : Char) (s : Text) : Option (Text × Text) :=
  let after := (s.reverse.takeWhile (· != c)).reverse
  if after.length = s.length then none
  else some (s.take (s.length - after.length - 1), after)

/-- ASCII letters in their small form; every other character stays. -/
def toLower (s : Text) : Text := s.map Char.toLower

end Text

end QueryTemplate
