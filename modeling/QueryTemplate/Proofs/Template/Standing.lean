import QueryTemplate.Proofs.Template.Binding

/-! Which placeholders of a template count. One that stands in a closed pair of braces and whose
argument is the skip marker is dropped. An accepted template is filled exactly if each of the others
has a text, and otherwise it fails as the leftmost of them that has none. -/

namespace QueryTemplate.Template

open Segment Failure

/-- The place between two texts is inside a pair of braces that encloses no other brace. -/
def IsEnclosed (before after : Text) : Prop :=
  ∃ front x y back, before = front ++ '{' :: x ∧ after = y ++ '}' :: back ∧
    ∀ c ∈ x ++ y, isBrace c = false

/-- The question mark with this number disappears together with its block. -/
def IsDropped (args : List Value) (number : Nat) (before after : Text) : Prop :=
  IsEnclosed before ('?' :: after) ∧ args[number]? = some .skip

/-- The placeholder in front of a text has a text for the argument with this number. -/
def HasText (args : List Value) (number : Nat) (after : Text) : Prop :=
  ∃ x, slotText args number (after.takeWhile Tag.isTagChar) = .ok x

/-- The question mark with this number is the leftmost one that is not dropped and has no text. -/
structure FailsFirst (s : Text) (args : List Value) (number : Nat) (before after : Text)
    (e : Failure) : Prop where
  mark : IsMark s number before after
  stands : ¬IsDropped args number before after
  failure : slotText args number (after.takeWhile Tag.isTagChar) = .error e
  earlier : ∀ number' < number, ∀ before' after', IsMark s number' before' after' →
    ¬IsDropped args number' before' after' → HasText args number' after'

/-! ### Question marks and pieces -/

theorem isSome_pairAround?_iff (before after : Text) :
    (pairAround? before after).isSome = true ↔ IsEnclosed before after := by
  rw [Option.isSome_iff_exists]
  constructor
  · rintro ⟨pair, hpair⟩
    obtain ⟨front, x, y, back, hbefore, hafter, hplain, -⟩ :=
      exists_of_pairAround?_eq_some hpair
    exact ⟨front, x, y, back, hbefore, hafter, hplain⟩
  · rintro ⟨front, x, y, back, rfl, rfl, hplain⟩
    rw [List.forall_mem_append] at hplain
    exact ⟨_, pairAround?_between front hplain.1 hplain.2 back⟩

/-- The piece at a question mark is its slot, unless the question mark is dropped. -/
theorem pieceAt_mark_eq_slot_iff {s : Text} {args : List Value} {number : Nat}
    {before after : Text} (hcrowded : ∀ i body, ¬IsCrowdedAt s i body)
    (hmark : IsMark s number before after) :
    pieceAt true (skipsOf args) before '?' after =
        .slot number (after.takeWhile Tag.isTagChar) ↔ ¬IsDropped args number before after := by
  obtain ⟨hs, rfl⟩ := hmark
  rw [pieceAt_mark hcrowded hs, IsDropped, ← isSome_pairAround?_iff, ← skipsOf_eq_true_iff,
    ← Bool.and_eq_true]
  split_ifs with hdropped <;> simp [hdropped]

/-- The pieces of a template around a question mark. -/
theorem pieces_eq_of_isMark (skips : Nat → Bool) {s : Text} {number : Nat} {before after : Text}
    (hmark : IsMark s number before after) : ∃ back, pieces true skips s =
      spread (pieceAt true skips) [] before ('?' :: after) ++
        pieceAt true skips before '?' after :: back := by
  obtain ⟨rfl, -⟩ := hmark
  exact ⟨_, pieces_append_cons true skips before '?' after⟩

/-- An earlier question mark stands in the text before a later one. -/
theorem IsMark.exists_between {s : Text} {number number' : Nat} {before after before' after' : Text}
    (hmark : IsMark s number before after) (hmark' : IsMark s number' before' after')
    (hlt : number' < number) :
    ∃ between, before = before' ++ '?' :: between ∧ after' = between ++ '?' :: after := by
  obtain ⟨rfl, rfl⟩ := hmark
  obtain ⟨hsplit, rfl⟩ := hmark'
  rcases List.append_eq_append_iff.mp hsplit with ⟨rest, rfl, -⟩ | ⟨rest, rfl, hrest⟩
  · rw [List.count_append] at hlt
    omega
  · cases rest with
    | nil => simp at hlt
    | cons c rest =>
      obtain ⟨rfl, rfl⟩ := List.cons.inj hrest
      exact ⟨rest, rfl, rfl⟩

/-- The slots of the first of two parts are its question marks that are not dropped. -/
theorem slot_mem_spread_iff (args : List Value) {front back : Text}
    (hcrowded : ∀ i body, ¬IsCrowdedAt (front ++ back) i body) (number : Nat) (run : Text) :
    .slot number run ∈ spread (pieceAt true (skipsOf args)) [] front back ↔
      ∃ before after, IsMark front number before after ∧
        ¬IsDropped args number before (after ++ back) ∧
          run = (after ++ back).takeWhile Tag.isTagChar := by
  have hwhole {number : Nat} {before after : Text} (hmark : IsMark front number before after) :
      IsMark (front ++ back) number before (after ++ back) := by
    obtain ⟨rfl, rfl⟩ := hmark
    exact ⟨by simp, rfl⟩
  constructor
  · intro hmem
    obtain ⟨_, _, hsplit⟩ := List.append_of_mem hmem
    obtain ⟨before, c, after, rfl, -, hpiece⟩ := exists_split_of_spread_eq hsplit
    rw [List.nil_append] at hpiece
    have hslot : c = '?' ∧ number = before.count '?' ∧
        run = (after ++ back).takeWhile Tag.isTagChar := by
      rw [pieceAt] at hpiece
      split_ifs at hpiece with _ hc
      exact ⟨hc, Piece.slot.inj hpiece⟩
    obtain ⟨rfl, rfl, rfl⟩ := hslot
    have hmark : IsMark (before ++ '?' :: after) (before.count '?') before after := ⟨rfl, rfl⟩
    exact ⟨before, after, hmark,
      (pieceAt_mark_eq_slot_iff hcrowded (hwhole hmark)).mp hpiece.symm, rfl⟩
  · rintro ⟨before, after, hmark, hstands, rfl⟩
    rw [← (pieceAt_mark_eq_slot_iff hcrowded (hwhole hmark)).mpr hstands, hmark.1, spread_append,
      spread, List.nil_append]
    simp

/-- The slots of a template are its question marks that are not dropped. -/
theorem slot_mem_pieces_iff {s : Text} {args : List Value}
    (hcrowded : ∀ i body, ¬IsCrowdedAt s i body) (number : Nat) (run : Text) :
    .slot number run ∈ pieces true (skipsOf args) s ↔ ∃ before after,
      IsMark s number before after ∧ ¬IsDropped args number before after ∧
        run = after.takeWhile Tag.isTagChar := by
  rw [← List.append_nil s] at hcrowded
  have hslots := slot_mem_spread_iff args hcrowded number run
  simp only [List.append_nil] at hslots
  exact hslots

/-! ### The outcome -/

/-- Pieces have a text if the slots among them have one. -/
theorem exists_joined_eq_ok_iff (args : List Value) (all : List Piece) :
    (∃ x, joined args all = .ok x) ↔
      ∀ number run, .slot number run ∈ all → ∃ x, slotText args number run = .ok x := by
  constructor
  · rintro ⟨x, hx⟩ number run hmem
    cases hslot : slotText args number run with
    | ok y => exact ⟨y, rfl⟩
    | error e =>
      obtain ⟨front, back, rfl⟩ := List.append_of_mem hmem
      obtain ⟨y, z, -, hz, -⟩ := (joined_append_eq_ok_iff args).mp hx
      rw [joined_cons, Piece.text, hslot] at hz
      cases hz
  · intro hall
    cases hjoined : joined args all with
    | ok x => exact ⟨x, rfl⟩
    | error e =>
      obtain ⟨front, piece, back, rfl, -, hpiece⟩ := (joined_eq_error_iff args).mp hjoined
      obtain ⟨number, run, rfl, hslot⟩ := exists_slot_of_text_eq_error hpiece
      obtain ⟨x, hx⟩ := hall number run (by simp)
      rw [hslot] at hx
      cases hx

/-- A template is filled if it is accepted and every placeholder that is not dropped has a text. -/
theorem exists_compile_eq_ok_iff (s : Text) (args : List Value) :
    (∃ sql, compile s args = .ok sql) ↔ validate s args.length = .ok () ∧
      ∀ number before after, IsMark s number before after →
        ¬IsDropped args number before after → HasText args number after := by
  constructor
  · rintro ⟨sql, hsql⟩
    have hvalid := validate_of_compile_eq_ok hsql
    rw [compile_eq_joined hvalid] at hsql
    have hall := (exists_joined_eq_ok_iff args _).mp ⟨sql, hsql⟩
    refine ⟨hvalid, fun number before after hmark hstands => ?_⟩
    have hcrowded := (accepted_of_validate_eq_ok hvalid).1
    exact hall number _
      ((slot_mem_pieces_iff hcrowded number _).mpr ⟨before, after, hmark, hstands, rfl⟩)
  · rintro ⟨hvalid, hall⟩
    rw [compile_eq_joined hvalid, exists_joined_eq_ok_iff]
    intro number run hmem
    have hcrowded := (accepted_of_validate_eq_ok hvalid).1
    obtain ⟨before, after, hmark, hstands, rfl⟩ :=
      (slot_mem_pieces_iff hcrowded number run).mp hmem
    exact hall number before after hmark hstands

/-- The pieces before a question mark have a text if the earlier placeholders have one that are not
dropped. -/
theorem exists_joined_spread_eq_ok_iff {s : Text} {args : List Value} {number : Nat}
    {before after : Text} (hcrowded : ∀ i body, ¬IsCrowdedAt s i body)
    (hmark : IsMark s number before after) :
    (∃ x, joined args (spread (pieceAt true (skipsOf args)) [] before ('?' :: after)) = .ok x) ↔
      ∀ number' < number, ∀ before' after', IsMark s number' before' after' →
        ¬IsDropped args number' before' after' → HasText args number' after' := by
  have hsplit := hmark.1
  rw [hsplit] at hcrowded
  rw [exists_joined_eq_ok_iff]
  constructor
  · intro hall number' hlt before' after' hmark' hstands
    obtain ⟨between, rfl, rfl⟩ := hmark.exists_between hmark' hlt
    exact hall number' _ ((slot_mem_spread_iff args hcrowded number' _).mpr
      ⟨before', between, ⟨rfl, hmark'.2⟩, hstands, rfl⟩)
  · intro hall number' run hmem
    obtain ⟨before', between, hmark', hstands, rfl⟩ :=
      (slot_mem_spread_iff args hcrowded number' run).mp hmem
    refine hall number' ?_ before' _ ⟨?_, hmark'.2⟩ hstands
    · rw [← hmark.2]
      exact lt_count_of_isMark hmark'
    · rw [hsplit, hmark'.1]
      simp

/-- A template that is accepted fails as its leftmost placeholder that is not dropped and has no
text. -/
theorem compile_eq_error_iff_failsFirst {s : Text} {args : List Value}
    (hvalid : validate s args.length = .ok ()) (e : Failure) :
    compile s args = .error e ↔
      ∃ number before after, FailsFirst s args number before after e := by
  have hcrowded := (accepted_of_validate_eq_ok hvalid).1
  constructor
  · intro h
    obtain ⟨front, number, run, back, hpieces, hfront, hslot⟩ :=
      (compile_eq_error_iff hvalid e).mp h
    obtain ⟨before, after, hmark, hlength, rfl⟩ := isMark_of_slot_mem hpieces
    obtain ⟨back', hpieces'⟩ := pieces_eq_of_isMark (skipsOf args) hmark
    obtain ⟨rfl, hrest⟩ := List.append_inj (hpieces.symm.trans hpieces')
      (by rw [length_spread, hlength])
    exact ⟨number, before, after, hmark,
      (pieceAt_mark_eq_slot_iff hcrowded hmark).mp (List.cons.inj hrest).1.symm, hslot,
      (exists_joined_spread_eq_ok_iff hcrowded hmark).mp hfront⟩
  · rintro ⟨number, before, after, hmark, hstands, hslot, hall⟩
    obtain ⟨back, hpieces⟩ := pieces_eq_of_isMark (skipsOf args) hmark
    rw [(pieceAt_mark_eq_slot_iff hcrowded hmark).mpr hstands] at hpieces
    exact (compile_eq_error_iff hvalid e).mpr
      ⟨_, number, _, back, hpieces, (exists_joined_spread_eq_ok_iff hcrowded hmark).mpr hall, hslot⟩

end QueryTemplate.Template
