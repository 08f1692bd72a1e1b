import QueryTemplate.Text.Basic

/-!
Two classes of white space: every blank of Unicode, and the six that surround a numeral.
-/

namespace QueryTemplate.Text

/-- The white space of Unicode 14, with the four information separators. -/
def blankRanges : List (Nat × Nat) :=
  [(0x9, 0xD), (0x1C, 0x20), (0x85, 0x85), (0xA0, 0xA0), (0x1680, 0x1680), (0x2000, 0x200A),
   (0x2028, 0x2029), (0x202F, 0x202F), (0x205F, 0x205F), (0x3000, 0x3000)]

def isBlank (c : Char) : Bool := inRanges blankRanges c

/-- Whether a character is the space, the tab or one of the four line controls. -/
def isSpacing (c : Char) : Bool := inRanges [(0x9, 0xD), (0x20, 0x20)] c

end QueryTemplate.Text
