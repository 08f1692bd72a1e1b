import QueryTemplate.Template.Tag

/-!
A template cut into segments: conditional blocks, placeholders (slots) and single characters. The
cut is made from left to right and loses nothing, so the sources of the segments make up the
template (`flatMap_source_scan`). A block runs from an opening brace to the next brace, which has
to be a closing one; a brace that opens no block is a character like any other. `Marks` says which
of the two marks are looked for.
-/

namespace QueryTemplate

inductive Segment where
  | char (c : Char)
  /-- A question mark and the run of tag characters after it. -/
  | slot (run : Text)
  /-- A pair of braces and the text between them. -/
  | block (body : Text)
  deriving DecidableEq, Repr

structure Marks where
  blocks : Bool
  slots : Bool
  deriving DecidableEq, Repr

namespace Segment

def source : Segment → Text
  | .char c => [c]
  | .slot run => Tag.placeholder run
  | .block body => '{' :: body ++ ['}']

def isSlot : Segment → Bool
  | .slot _ => true
  | _ => false

def body? : Segment → Option Text
  | .block body => some body
  | _ => none

def isBrace (c : Char) : Bool := c = '{' || c = '}'

/-- The text up to the next brace. -/
def interior (s : Text) : Text := s.takeWhile (!isBrace ·)

/-- The text from the next brace on. -/
def fromBrace (s : Text) : Text := s.dropWhile (!isBrace ·)

theorem interior_append_fromBrace (s : Text) : interior s ++ fromBrace s = s :=
  List.takeWhile_append_dropWhile

theorem length_dropWhile_le (p : Char → Bool) (s : Text) : (s.dropWhile p).length ≤ s.length :=
  (List.dropWhile_suffix p).length_le

def scan (marks : Marks) : Text → List Segment
  | [] => []
  | c :: rest =>
    if c = '?' ∧ marks.slots then
      .slot (rest.takeWhile Tag.isTagChar) :: scan marks (rest.dropWhile Tag.isTagChar)
    else if c = '{' ∧ marks.blocks ∧ (fromBrace rest).head? = some '}' then
      .block (interior rest) :: scan marks (fromBrace rest).tail
    else .char c :: scan marks rest
termination_by s => s.length
decreasing_by
  · exact Nat.lt_succ_of_le (length_dropWhile_le _ _)
  · have h := length_dropWhile_le (!isBrace ·) rest
    simp only [fromBrace, List.length_tail, List.length_cons]
    omega
  · exact Nat.lt_succ_self _

theorem flatMap_source_scan (marks : Marks) (s : Text) : (scan marks s).flatMap source = s := by
  fun_induction scan marks s with
  | case1 => rfl
  | case2 c rest h ih =>
    simp [source, Tag.placeholder, ih, h.1, List.takeWhile_append_dropWhile]
  | case3 c rest _ h ih =>
    obtain ⟨rfl, _, hbrace⟩ := h
    have hrest : '}' :: (fromBrace rest).tail = fromBrace rest := by
      cases hs : fromBrace rest with
      | nil => simp [hs] at hbrace
      | cons d t => simp only [hs, List.head?_cons, Option.some.injEq] at hbrace; simp [hbrace]
    simp [source, ih, hrest, interior_append_fromBrace]
  | case4 c rest _ _ ih => simp [source, ih]

def slots (s : Text) : List Segment := scan ⟨false, true⟩ s

def blocks (s : Text) : List Segment := scan ⟨true, false⟩ s

/-- The number of slots in a text, inside and outside of blocks. -/
def slotCount (s : Text) : Nat := (slots s).countP isSlot

end Segment

end QueryTemplate
