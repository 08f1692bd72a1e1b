import QueryTemplate.Proofs.Template.Evaluation

/-! Which argument a question mark takes. The question marks of a template are numbered from left to
right, and the piece at one of them is a slot with its number, or nothing if its block is skipped.
In a template without crowded blocks the marker that skips a block is the argument of the only
question mark in it, so the piece at a question mark depends on its own argument alone. -/

namespace QueryTemplate.Template

open Segment Failure

/-- The question mark between two texts is the one with this number in a template. -/
def IsMark (s : Text) (number : Nat) (before after : Text) : Prop :=
  s = before ++ '?' :: after ∧ before.count '?' = number

/-! ### Question marks and their numbers -/

theorem lt_count_of_isMark {s : Text} {number : Nat} {before after : Text}
    (h : IsMark s number before after) : number < s.count '?' := by
  obtain ⟨rfl, rfl⟩ := h
  rw [List.count_append, List.count_cons_self]
  omega

theorem exists_isMark {s : Text} {number : Nat} (h : number < s.count '?') :
    ∃ before after, IsMark s number before after := by
  induction s generalizing number with
  | nil => cases h
  | cons c s ih =>
    by_cases hc : c = '?'
    · subst hc
      cases number with
      | zero => exact ⟨[], s, rfl, rfl⟩
      | succ number =>
        rw [List.count_cons_self] at h
        obtain ⟨before, after, rfl, rfl⟩ := ih (Nat.lt_of_succ_lt_succ h)
        exact ⟨'?' :: before, after, rfl, List.count_cons_self⟩
    · rw [List.count_cons_of_ne hc] at h
      obtain ⟨before, after, rfl, rfl⟩ := ih h
      exact ⟨c :: before, after, rfl, List.count_cons_of_ne hc⟩

/-- Two question marks of the same number are the same. -/
theorem IsMark.unique {s : Text} {number : Nat} {before after before' after' : Text}
    (h : IsMark s number before after) (h' : IsMark s number before' after') :
    before = before' ∧ after = after' := by
  obtain ⟨rfl, rfl⟩ := h
  obtain ⟨hsplit, hcount⟩ := h'
  induction before generalizing before' with
  | nil =>
    cases before' with
    | nil => exact ⟨rfl, (List.cons.inj hsplit).2⟩
    | cons c before' =>
      obtain ⟨rfl, -⟩ := List.cons.inj hsplit
      rw [List.count_cons_self] at hcount
      cases hcount
  | cons c before ih =>
    cases before' with
    | nil =>
      obtain ⟨rfl, -⟩ := List.cons.inj hsplit
      rw [List.count_cons_self] at hcount
      cases hcount
    | cons d before' =>
      obtain ⟨rfl, htail⟩ := List.cons.inj hsplit
      rw [List.count_cons, List.count_cons, Nat.add_right_cancel_iff] at hcount
      obtain ⟨rfl, rfl⟩ := ih htail hcount
      exact ⟨rfl, rfl⟩

/-! ### The piece at a question mark -/

/-- The pieces of a template around one of its characters. -/
theorem pieces_append_cons (blocks : Bool) (skips : Nat → Bool) (before : Text) (c : Char)
    (after : Text) :
    pieces blocks skips (before ++ c :: after) =
      spread (pieceAt blocks skips) [] before (c :: after) ++
        pieceAt blocks skips before c after ::
          spread (pieceAt blocks skips) (before ++ [c]) after [] := by
  rw [pieces, spread_append, spread, List.append_nil, List.append_nil, List.nil_append]

/-- A piece stands at the character that has as many characters before it. -/
theorem exists_split_of_spread_eq {f : Text → Char → Text → Piece} {before s after : Text}
    {front back : List Piece} {piece : Piece}
    (h : spread f before s after = front ++ piece :: back) :
    ∃ x c y, s = x ++ c :: y ∧ x.length = front.length ∧
      piece = f (before ++ x) c (y ++ after) := by
  induction front generalizing before s with
  | nil =>
    cases s with
    | nil => cases h
    | cons c s =>
      obtain ⟨hpiece, -⟩ := List.cons.inj h
      exact ⟨[], c, s, rfl, rfl, by rw [List.append_nil]; exact hpiece.symm⟩
  | cons first front ih =>
    cases s with
    | nil => cases h
    | cons c s =>
      obtain ⟨-, htail⟩ := List.cons.inj h
      obtain ⟨x, d, y, rfl, hlen, hpiece⟩ := ih htail
      refine ⟨c :: x, d, y, rfl, by rw [List.length_cons, List.length_cons, hlen], ?_⟩
      rwa [List.append_cons]

/-- A slot stands at the question mark with its number. -/
theorem isMark_of_slot_mem {blocks : Bool} {skips : Nat → Bool} {s : Text} {front back : List Piece}
    {number : Nat} {run : Text} (h : pieces blocks skips s = front ++ .slot number run :: back) :
    ∃ before after, IsMark s number before after ∧ before.length = front.length ∧
      run = after.takeWhile Tag.isTagChar := by
  obtain ⟨before, c, after, rfl, hlen, hpiece⟩ := exists_split_of_spread_eq h
  rw [List.nil_append, List.append_nil, pieceAt] at hpiece
  split_ifs at hpiece with _ hmark
  obtain ⟨rfl, rfl⟩ := Piece.slot.inj hpiece
  exact ⟨before, after, ⟨by rw [hmark], rfl⟩, hlen, rfl⟩

/-- Where the nearest brace is one that opens, the text before it is what is left of the text. -/
theorem exists_of_pairAround?_eq_some {before after : Text} {pair : ClosedPair}
    (h : pairAround? before after = some pair) :
    ∃ front s t back, before = front ++ '{' :: s ∧ after = t ++ '}' :: back ∧
      (∀ c ∈ s ++ t, isBrace c = false) ∧ pair = ⟨front.count '?', s ++ t⟩ := by
  have hopen : (fromBrace before.reverse).head? = some '{' := by
    by_contra hopen
    rw [pairAround?, if_neg fun hboth => hopen hboth.1] at h
    cases h
  have hclose : (fromBrace after).head? = some '}' := by
    by_contra hclose
    rw [pairAround?, if_neg fun hboth => hclose hboth.2] at h
    cases h
  obtain ⟨front, hfront⟩ := List.head?_eq_some_iff.mp hopen
  have hbefore : before = front.reverse ++ '{' :: (interior before.reverse).reverse := by
    apply List.reverse_injective
    conv_lhs => rw [← interior_append_fromBrace before.reverse, hfront]
    simp
  have hplain : ∀ c ∈ (interior before.reverse).reverse ++ interior after, isBrace c = false := by
    intro c hc
    rcases List.mem_append.mp hc with hc | hc
    · exact not_isBrace_of_mem_interior (List.mem_reverse.mp hc)
    · exact not_isBrace_of_mem_interior hc
  have hpair := pairAround?_between front.reverse (fun c hc => hplain c (List.mem_append_left _ hc))
    (fun c hc => hplain c (List.mem_append_right _ hc)) (fromBrace after).tail
  rw [← hbefore, ← eq_interior_append hclose, h] at hpair
  exact ⟨_, _, _, _, hbefore, eq_interior_append hclose, hplain, Option.some.inj hpair⟩

/-- The closed pair around a question mark, if it is not crowded, has the number of the question
mark. -/
theorem number_of_pairAround? {s before after : Text} {pair : ClosedPair}
    (hcrowded : ∀ i body, ¬IsCrowdedAt s i body) (hs : s = before ++ '?' :: after)
    (h : pairAround? before ('?' :: after) = some pair) :
    pair.number = before.count '?' ∧ '?' ∈ pair.body := by
  obtain ⟨front, x, t, back, rfl, hafter, hplain, rfl⟩ := exists_of_pairAround?_eq_some h
  cases t with
  | nil => cases hafter
  | cons c t =>
    obtain ⟨rfl, -⟩ := List.cons.inj hafter
    have hclose : '}' ∉ x ++ '?' :: t := fun hmem => absurd (hplain '}' hmem) (by decide)
    have hsplit : s = front ++ '{' :: (x ++ '?' :: t) ++ '}' :: back := by
      rw [hs, hafter]
      simp
    have hone : ¬1 < (x ++ '?' :: t).count '?' := fun hmany =>
      hcrowded front.length _ ⟨⟨front, back, hsplit, hclose, rfl⟩, hmany⟩
    rw [List.count_append, List.count_cons_self] at hone
    have hx : x.count '?' = 0 := by omega
    refine ⟨?_, by simp⟩
    rw [List.count_append, List.count_cons_of_ne (by decide), hx, Nat.add_zero]

/-- The piece at a question mark: nothing if its block is skipped, and its slot if not. -/
theorem pieceAt_mark {s before after : Text} (hcrowded : ∀ i body, ¬IsCrowdedAt s i body)
    (hs : s = before ++ '?' :: after) (skips : Nat → Bool) :
    pieceAt true skips before '?' after =
      if (pairAround? before ('?' :: after)).isSome && skips (before.count '?') then .nothing
      else .slot (before.count '?') (after.takeWhile Tag.isTagChar) := by
  have hremoved : isRemoved skips before '?' after =
      ((pairAround? before ('?' :: after)).isSome && skips (before.count '?')) := by
    rw [isRemoved, pairOf?, if_neg (by decide)]
    cases hpair : pairAround? before ('?' :: after) with
    | none => rfl
    | some pair =>
      obtain ⟨hnumber, hmark⟩ := number_of_pairAround? hcrowded hs hpair
      simp [hnumber, hmark, isBrace]
  rw [pieceAt, hremoved, if_pos rfl, Bool.true_and]

theorem skipsOf_congr {args args' : List Value} {number : Nat}
    (h : args'[number]? = args[number]?) : skipsOf args' number = skipsOf args number := by
  rw [skipsOf, skipsOf, h]

theorem slotText_congr {args args' : List Value} {number : Nat}
    (h : args'[number]? = args[number]?) (run : Text) :
    slotText args' number run = slotText args number run := by
  rw [slotText, slotText, h]

/-! ### Failures -/

/-- Only a slot fails. -/
theorem exists_slot_of_text_eq_error {args : List Value} {piece : Piece} {e : Failure}
    (h : piece.text args = .error e) :
    ∃ number run, piece = .slot number run ∧ slotText args number run = .error e := by
  cases piece with
  | slot number run => exact ⟨number, run, rfl, h⟩
  | kept c => cases h
  | nothing => cases h

/-- A slot that has an argument fails because of its run or because of its argument. -/
theorem slotText_eq_error {args : List Value} {number : Nat} {run : Text} {e : Failure}
    (hlt : number < args.length) (h : slotText args number run = .error e) :
    e = .unknownRun run ∨
      ∃ tag, Tag.ofRun? run = some tag ∧ tag.render args[number] = .error e := by
  rw [slotText, List.getElem?_eq_getElem hlt] at h
  cases htag : Tag.ofRun? run with
  | none =>
    rw [htag] at h
    exact Or.inl (Except.error.inj h).symm
  | some tag =>
    rw [htag] at h
    exact Or.inr ⟨tag, rfl, h⟩

/-- A template that is accepted fails at its leftmost slot without a text. -/
theorem compile_eq_error_iff {s : Text} {args : List Value} (h : validate s args.length = .ok ())
    (e : Failure) :
    compile s args = .error e ↔ ∃ front number run back,
      pieces true (skipsOf args) s = front ++ .slot number run :: back ∧
        (∃ x, joined args front = .ok x) ∧ slotText args number run = .error e := by
  rw [compile_eq_joined h, joined_eq_error_iff]
  constructor
  · rintro ⟨front, piece, back, hsplit, hfront, hpiece⟩
    obtain ⟨number, run, rfl, htext⟩ := exists_slot_of_text_eq_error hpiece
    exact ⟨front, number, run, back, hsplit, hfront, htext⟩
  · rintro ⟨front, number, run, back, hsplit, hfront, htext⟩
    exact ⟨front, .slot number run, back, hsplit, hfront, htext⟩

theorem number_lt_of_slot_mem {s : Text} {args : List Value} (h : validate s args.length = .ok ())
    {front back : List Piece} {number : Nat} {run : Text}
    (hsplit : pieces true (skipsOf args) s = front ++ .slot number run :: back) :
    number < args.length := by
  obtain ⟨before, after, hmark, -⟩ := isMark_of_slot_mem hsplit
  rw [← (accepted_of_validate_eq_ok h).2]
  exact lt_count_of_isMark hmark

/-- A failure of an accepted template is that of a run without a tag or of an argument. -/
theorem exists_render_of_compile_eq_error {s : Text} {args : List Value}
    (h : validate s args.length = .ok ()) {e : Failure} (he : compile s args = .error e) :
    (∃ run, e = .unknownRun run) ∨ ∃ tag, ∃ v ∈ args, Tag.render tag v = .error e := by
  obtain ⟨front, number, run, back, hsplit, -, htext⟩ := (compile_eq_error_iff h e).mp he
  have hlt := number_lt_of_slot_mem h hsplit
  rcases slotText_eq_error hlt htext with he | ⟨tag, -, he⟩
  · exact Or.inl ⟨run, he⟩
  · exact Or.inr ⟨tag, args[number], List.getElem_mem hlt, he⟩

/-! ### The outcome -/

/-- A template and its arguments come to an evaluation from left to right in which every question
mark takes the argument of its number. -/
structure IsEvaluated (s : Text) (args : List Value) : Prop where
  outcome : compile s args = joined args (pieces true (skipsOf args) s)
  /-- The failure is that of the leftmost slot that has no text. -/
  failure : ∀ e, compile s args = .error e ↔ ∃ front number run back,
    pieces true (skipsOf args) s = front ++ .slot number run :: back ∧
      (∃ x, joined args front = .ok x) ∧ slotText args number run = .error e
  /-- No argument is looked for where there is none. -/
  inRange : ∀ e, compile s args = .error e → e.kind.isA .index = false
  /-- Every argument has one question mark and no other. -/
  bound : ∀ number < args.length, ∃! place : Text × Text, IsMark s number place.1 place.2
  /-- The piece at a question mark is its slot, or nothing if its block is skipped. -/
  marked : ∀ number before after, IsMark s number before after → ∃ front back,
    front.length = before.length ∧ pieces true (skipsOf args) s = front ++
      (if (pairAround? before ('?' :: after)).isSome && skipsOf args number then .nothing
        else .slot number (after.takeWhile Tag.isTagChar)) :: back
  /-- Every slot stands at the question mark with its number. -/
  placed : ∀ front number run back,
    pieces true (skipsOf args) s = front ++ .slot number run :: back → ∃ before after,
      IsMark s number before after ∧ before.length = front.length ∧
        run = after.takeWhile Tag.isTagChar
  /-- The text at a question mark depends on the argument of its number alone. -/
  separate : ∀ number before after, IsMark s number before after → ∀ args' : List Value,
    args'[number]? = args[number]? →
      (pieceAt true (skipsOf args') before '?' after).text args' =
        (pieceAt true (skipsOf args) before '?' after).text args

theorem isA_index_eq_false_of_isA_template {kind : Kind} (h : kind.isA .template = true) :
    kind.isA .index = false := by
  revert h
  cases kind <;> decide

theorem isEvaluated_of_validate_eq_ok (s : Text) (args : List Value)
    (h : validate s args.length = .ok ()) : IsEvaluated s args where
  outcome := compile_eq_joined h
  failure := compile_eq_error_iff h
  inRange := by
    intro e he
    rcases exists_render_of_compile_eq_error h he with ⟨run, rfl⟩ | ⟨tag, v, -, hrender⟩
    · rfl
    · rcases Tag.render_eq_error hrender with (hkind | ⟨rfl, -⟩) | ⟨-, -, rfl⟩
      · exact isA_index_eq_false_of_isA_template hkind
      · rfl
      · rfl
  bound := by
    intro number hnumber
    rw [← (accepted_of_validate_eq_ok h).2] at hnumber
    obtain ⟨before, after, hmark⟩ := exists_isMark hnumber
    refine ⟨(before, after), hmark, ?_⟩
    rintro ⟨before', after'⟩ hmark'
    obtain ⟨rfl, rfl⟩ := hmark.unique hmark'
    rfl
  marked := by
    intro number before after hmark
    obtain ⟨hs, rfl⟩ := hmark
    rw [← pieceAt_mark (accepted_of_validate_eq_ok h).1 hs, hs, pieces_append_cons]
    exact ⟨_, _, length_spread _ _ _ _, rfl⟩
  placed := fun _ _ _ _ => isMark_of_slot_mem
  separate := by
    intro number before after hmark args' hargs
    obtain ⟨hs, rfl⟩ := hmark
    have hcrowded := (accepted_of_validate_eq_ok h).1
    rw [pieceAt_mark hcrowded hs, pieceAt_mark hcrowded hs, skipsOf_congr hargs]
    split_ifs
    · rfl
    · exact slotText_congr hargs _

theorem isEvaluated_skipped_block :
    validate "a ? {b ?d}".toList 2 = .ok () ∧
      IsEvaluated "a ? {b ?d}".toList [.null, .skip] ∧
      compile "a ? {b ?d}".toList [.null, .skip] = .ok "a NULL ".toList :=
  ⟨by decide +kernel, isEvaluated_of_validate_eq_ok _ [.null, .skip] (by decide +kernel),
    by decide +kernel⟩

end QueryTemplate.Template
