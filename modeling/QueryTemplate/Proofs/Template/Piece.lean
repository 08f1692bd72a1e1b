import QueryTemplate.Proofs.Failure.Bind
import QueryTemplate.Template.Fill

/-! What a template gives, character by character. Every character stands for one piece: itself, a
slot with its number, or nothing. Which of them it is depends on the text before and after the
character and on the arguments that are the skip marker, so there is no scan and no cursor here: the
number of a slot is the number of question marks before it. -/

namespace QueryTemplate.Template

open Segment

/-- What one character of a template gives. -/
inductive Piece where
  /-- The character itself. -/
  | kept (c : Char)
  /-- A slot: how many slots stand before it in the template, and its run. -/
  | slot (number : Nat) (run : Text)
  /-- Nothing: a tag character of a slot, a brace of a block that is filled, or a character of a
  block that disappears. -/
  | nothing
  deriving DecidableEq, Repr

/-- A closed pair of braces: how many slots stand before it, and the text between the braces. -/
structure ClosedPair where
  number : Nat
  body : Text
  deriving DecidableEq, Repr

/-- The closed pair around the place between two texts: the nearest brace before it is an opening
one, the nearest after it a closing one. -/
def pairAround? (before after : Text) : Option ClosedPair :=
  let back := fromBrace before.reverse
  if back.head? = some '{' ∧ (fromBrace after).head? = some '}' then
    some ⟨back.count '?', (interior before.reverse).reverse ++ interior after⟩
  else none

/-- The closed pair that a character belongs to, as one of its braces or between them. -/
def pairOf? (before : Text) (c : Char) (after : Text) : Option ClosedPair :=
  if c = '{' then pairAround? (before ++ [c]) after else pairAround? before (c :: after)

/-- Whether a character gives nothing because of the closed pair that it belongs to: the pair holds
a slot, and it is skipped or the character is one of its braces. -/
def isRemoved (skips : Nat → Bool) (before : Text) (c : Char) (after : Text) : Bool :=
  (pairOf? before c after).any fun pair =>
    pair.body.contains '?' && (skips pair.number || isBrace c)

/-- Whether a text ends in a slot, so that a tag character after it belongs to the run. -/
def endsInSlot (before : Text) : Bool :=
  (before.reverse.dropWhile Tag.isTagChar).head? = some '?'

/-- The piece of a character between two texts. With `blocks` false braces have no meaning. -/
def pieceAt (blocks : Bool) (skips : Nat → Bool) (before : Text) (c : Char) (after : Text) :
    Piece :=
  if blocks && isRemoved skips before c after then .nothing
  else if c = '?' then .slot (before.count '?') (after.takeWhile Tag.isTagChar)
  else if Tag.isTagChar c && endsInSlot before then .nothing
  else .kept c

/-- The pieces of a text between two others. -/
def spread (f : Text → Char → Text → Piece) (before : Text) : Text → Text → List Piece
  | [], _ => []
  | c :: s, after => f before c (s ++ after) :: spread f (before ++ [c]) s after

/-- The pieces of a template, one for each character. -/
def pieces (blocks : Bool) (skips : Nat → Bool) (s : Text) : List Piece :=
  spread (pieceAt blocks skips) [] s []

/-- Whether the argument of this number is the skip marker. -/
def skipsOf (args : List Value) (number : Nat) : Bool := args[number]?.any Value.isSkip

/-- What a slot gives for its argument. -/
def slotText (args : List Value) (number : Nat) (run : Text) : Except Failure Text :=
  match Tag.ofRun? run with
  | none => .error (.unknownRun run)
  | some tag =>
    match args[number]? with
    | some v => tag.render v
    | none => .error (Arguments.noItem "list" number)

namespace Piece

/-- The text of a piece. -/
def text (args : List Value) : Piece → Except Failure Text
  | .kept c => .ok [c]
  | .slot number run => slotText args number run
  | .nothing => .ok []

end Piece

/-- The texts of pieces from left to right; the first that has none fails. -/
def joined (args : List Value) : List Piece → Except Failure Text
  | [] => .ok []
  | piece :: rest => do return (← piece.text args) ++ (← joined args rest)

/-! ### Texts of pieces -/

variable (args : List Value)

@[simp]
theorem joined_nil : joined args [] = .ok [] := rfl

theorem joined_cons (piece : Piece) (rest : List Piece) :
    joined args (piece :: rest) =
      (piece.text args).bind fun head => (joined args rest).map (head ++ ·) := by
  rw [joined]
  cases piece.text args <;> cases joined args rest <;> rfl

theorem joined_singleton (piece : Piece) : joined args [piece] = piece.text args := by
  rw [joined_cons]
  cases piece.text args <;> simp [Except.bind, Except.map]

theorem joined_append (front back : List Piece) :
    joined args (front ++ back) =
      (joined args front).bind fun head => (joined args back).map (head ++ ·) := by
  induction front with
  | nil =>
    cases h : joined args back <;> simp [Except.bind, Except.map, h]
  | cons piece front ih =>
    rw [List.cons_append, joined_cons, joined_cons, ih]
    cases piece.text args <;> cases joined args front <;> cases joined args back <;>
      simp [Except.bind, Except.map]

theorem joined_map_kept (s : Text) : joined args (s.map .kept) = .ok s := by
  induction s with
  | nil => rfl
  | cons c s ih =>
    rw [List.map_cons, joined_cons, ih]
    rfl

theorem joined_map_nothing (s : Text) : joined args (s.map fun _ => .nothing) = .ok [] := by
  induction s with
  | nil => rfl
  | cons c s ih =>
    rw [List.map_cons, joined_cons, ih]
    rfl

theorem joined_append_eq_ok_iff {front back : List Piece} {t : Text} :
    joined args (front ++ back) = .ok t ↔
      ∃ x y, joined args front = .ok x ∧ joined args back = .ok y ∧ t = x ++ y := by
  rw [joined_append]
  cases joined args front <;> cases joined args back <;> simp [Except.bind, Except.map, eq_comm]

/-- A failure is that of the first piece without a text. -/
theorem joined_eq_error_iff {all : List Piece} {e : Failure} :
    joined args all = .error e ↔ ∃ front piece back, all = front ++ piece :: back ∧
      (∃ x, joined args front = .ok x) ∧ piece.text args = .error e := by
  induction all with
  | nil => simp
  | cons head rest ih =>
    rw [joined_cons]
    constructor
    · intro h
      cases hhead : head.text args with
      | error e' =>
        rw [hhead] at h
        cases h
        exact ⟨[], head, rest, rfl, ⟨[], rfl⟩, hhead⟩
      | ok x =>
        rw [hhead] at h
        obtain ⟨front, piece, back, rfl, ⟨y, hy⟩, hpiece⟩ :=
          ih.mp (Failure.map_eq_error_iff.mp h)
        refine ⟨head :: front, piece, back, rfl, ⟨x ++ y, ?_⟩, hpiece⟩
        rw [joined_cons, hhead, hy]
        rfl
    · rintro ⟨front, piece, back, h, ⟨x, hx⟩, hpiece⟩
      cases front with
      | nil =>
        obtain ⟨rfl, rfl⟩ := List.cons.inj h
        rw [hpiece]
        rfl
      | cons first front =>
        obtain ⟨rfl, rfl⟩ := List.cons.inj h
        rw [joined_cons] at hx
        cases hhead : head.text args with
        | error e' =>
          rw [hhead] at hx
          cases hx
        | ok y =>
          rw [hhead] at hx
          obtain ⟨z, hz, -⟩ := Failure.map_eq_ok_iff.mp hx
          have hrest : joined args (front ++ piece :: back) = .error e :=
            ih.mpr ⟨front, piece, back, rfl, ⟨z, hz⟩, hpiece⟩
          show (joined args (front ++ piece :: back)).map (y ++ ·) = .error e
          rw [hrest]
          rfl

end QueryTemplate.Template
