import QueryTemplate.Proofs.Template.Evaluation

/-! Where a template may be cut in two. At a seam the first part leaves no brace open and no
placeholder runs on into the second part. Then each part is checked, scanned and filled on its own,
with its own share of the arguments, and the two outputs stand one after the other. -/

namespace QueryTemplate.Template

open Segment Failure

/-- Every opening brace has a closing one after it. -/
def IsClosed (s : Text) : Prop := ∀ front back, s = front ++ '{' :: back → '}' ∈ back

/-- The last placeholder of the first text would take the first character of the second. -/
def Fuses (s t : Text) : Prop := endsInSlot s = true ∧ t.head?.any Tag.isTagChar = true

/-- No block opens inside another one, and none holds two slots. -/
def IsWellFormed (s : Text) : Prop :=
  (∀ j, ¬IsNested s j) ∧ ∀ i body, ¬IsCrowdedAt s i body

/-! ### Closed texts -/

/-- A character of two joined texts stands in one of them. -/
theorem eq_or_eq_of_append_eq {s t front back : Text} {c : Char}
    (h : s ++ t = front ++ c :: back) :
    (∃ rest, s = front ++ c :: rest ∧ back = rest ++ t) ∨
      ∃ rest, front = s ++ rest ∧ t = rest ++ c :: back := by
  rcases List.append_eq_append_iff.mp h with ⟨rest, hfront, ht⟩ | ⟨rest, hs, hback⟩
  · exact Or.inr ⟨rest, hfront, ht⟩
  · cases rest with
    | nil => exact Or.inr ⟨[], by simpa using hs.symm, by simpa using hback.symm⟩
    | cons d rest =>
      obtain ⟨rfl, rfl⟩ := List.cons.inj hback
      exact Or.inl ⟨rest, hs, rfl⟩

theorem isClosed_of_not_mem {s : Text} (h : '{' ∉ s) : IsClosed s := by
  rintro front back rfl
  simp at h

theorem IsClosed.of_append {s t : Text} (h : IsClosed (s ++ t)) : IsClosed t := by
  rintro front back rfl
  exact h (s ++ front) back (List.append_assoc s front _).symm

theorem IsClosed.append {s t : Text} (hs : IsClosed s) (ht : IsClosed t) : IsClosed (s ++ t) := by
  intro front back h
  rcases eq_or_eq_of_append_eq h with ⟨rest, hsplit, rfl⟩ | ⟨rest, -, hsplit⟩
  · exact List.mem_append_left t (hs front rest hsplit)
  · exact ht rest back hsplit

theorem isClosed_block {body : Text} (h : ∀ c ∈ body, isBrace c = false) :
    IsClosed (source (.block body)) := by
  intro front back hsplit
  cases front with
  | nil =>
    obtain ⟨-, rfl⟩ := List.cons.inj hsplit
    simp
  | cons c front =>
    obtain ⟨-, htail⟩ := List.cons.inj hsplit
    have hopen : '{' ∈ body ++ ['}'] := by
      rw [show body ++ ['}'] = front ++ '{' :: back from htail]
      simp
    rcases List.mem_append.mp hopen with hopen | hopen
    · exact absurd (h '{' hopen) (by decide)
    · exact absurd (List.mem_singleton.mp hopen) (by decide)

/-! ### The check at a seam -/

/-- An opening brace and what follows it without a closing one stand in one of two joined texts, if
the first of them leaves no brace open. -/
theorem eq_or_eq_of_append_eq_opened {s t front between back : Text} {c : Char}
    (hclosed : IsClosed s) (h : s ++ t = front ++ '{' :: between ++ c :: back)
    (hbetween : '}' ∉ between) :
    (∃ rest, s = front ++ '{' :: between ++ c :: rest) ∨
      ∃ rest, t = rest ++ '{' :: between ++ c :: back := by
  rw [List.append_assoc] at h
  rcases eq_or_eq_of_append_eq h with ⟨rest, hs, hrest⟩ | ⟨rest, -, ht⟩
  · rcases eq_or_eq_of_append_eq hrest.symm with ⟨last, hrest, -⟩ | ⟨last, hlast, -⟩
    · refine Or.inl ⟨last, ?_⟩
      rw [hs, hrest, List.append_assoc]
      rfl
    · -- the brace would be left open by the first text
      have hclose := hclosed front rest hs
      rw [hlast] at hbetween
      exact absurd (List.mem_append_left last hclose) hbetween
  · refine Or.inr ⟨rest, ?_⟩
    rw [ht, List.append_assoc]
    rfl

theorem isNested_append_iff {s : Text} (hclosed : IsClosed s) (t : Text) :
    (∃ j, IsNested (s ++ t) j) ↔ (∃ j, IsNested s j) ∨ ∃ j, IsNested t j := by
  constructor
  · rintro ⟨j, front, between, back, hsplit, hbetween, -⟩
    rcases eq_or_eq_of_append_eq_opened hclosed hsplit hbetween with ⟨rest, hs⟩ | ⟨rest, ht⟩
    · exact Or.inl ⟨_, front, between, rest, hs, hbetween, rfl⟩
    · exact Or.inr ⟨_, rest, between, back, ht, hbetween, rfl⟩
  · rintro (⟨j, front, between, back, rfl, hbetween, -⟩ |
      ⟨j, front, between, back, rfl, hbetween, -⟩)
    · exact ⟨_, front, between, back ++ t, by simp, hbetween, rfl⟩
    · exact ⟨_, s ++ front, between, back, by simp, hbetween, rfl⟩

theorem isCrowdedAt_append_iff {s : Text} (hclosed : IsClosed s) (t : Text) :
    (∃ i body, IsCrowdedAt (s ++ t) i body) ↔
      (∃ i body, IsCrowdedAt s i body) ∨ ∃ i body, IsCrowdedAt t i body := by
  constructor
  · rintro ⟨i, body, ⟨front, back, hsplit, hclose, -⟩, hmany⟩
    rcases eq_or_eq_of_append_eq_opened hclosed hsplit hclose with ⟨rest, hs⟩ | ⟨rest, ht⟩
    · exact Or.inl ⟨_, body, ⟨front, rest, hs, hclose, rfl⟩, hmany⟩
    · exact Or.inr ⟨_, body, ⟨rest, back, ht, hclose, rfl⟩, hmany⟩
  · rintro (⟨i, body, ⟨front, back, rfl, hclose, -⟩, hmany⟩ |
      ⟨i, body, ⟨front, back, rfl, hclose, -⟩, hmany⟩)
    · exact ⟨_, body, ⟨front, back ++ t, by simp, hclose, rfl⟩, hmany⟩
    · exact ⟨_, body, ⟨s ++ front, back, by simp, hclose, rfl⟩, hmany⟩

theorem isWellFormed_append_iff {s : Text} (hclosed : IsClosed s) (t : Text) :
    IsWellFormed (s ++ t) ↔ IsWellFormed s ∧ IsWellFormed t := by
  have hnested := isNested_append_iff hclosed t
  have hcrowded := isCrowdedAt_append_iff hclosed t
  simp only [IsWellFormed, ← not_exists, hnested, hcrowded, not_or]
  exact and_and_and_comm

theorem validate_eq_ok_iff (s : Text) (given : Nat) :
    validate s given = .ok () ↔ IsWellFormed s ∧ s.count '?' = given := by
  constructor
  · intro h
    have hverdict := verdict_validate s given
    rw [h] at hverdict
    cases hverdict with
    | accepted hnested hcrowded hcount => exact ⟨⟨hnested, hcrowded⟩, hcount⟩
  · rintro ⟨⟨hnested, hcrowded⟩, hcount⟩
    exact validate_of_verdict (.accepted hnested hcrowded hcount)

/-! ### The scan at a seam -/

theorem endsInSlot_append {s : Text} (h : endsInSlot s = true) (front : Text) :
    endsInSlot (front ++ s) = true := by
  rw [endsInSlot, decide_eq_true_eq] at h
  have hne : s.reverse.dropWhile Tag.isTagChar ≠ [] := by
    intro hnil
    rw [hnil] at h
    cases h
  rw [endsInSlot, List.reverse_append, List.dropWhile_append, if_neg (by simpa using hne),
    List.head?_append_of_ne_nil _ hne, h]
  rfl

theorem not_fuses_of_append {s t u : Text} (h : ¬Fuses (u ++ s) t) : ¬Fuses s t :=
  fun hfuses => h ⟨endsInSlot_append hfuses.1 u, hfuses.2⟩

theorem takeWhile_append_of_not_fuses {rest t : Text} (h : ¬Fuses ('?' :: rest) t) :
    (rest ++ t).takeWhile Tag.isTagChar = rest.takeWhile Tag.isTagChar := by
  cases hhead : t.head?.any Tag.isTagChar with
  | false => exact takeWhile_isTagChar_append rest hhead
  | true =>
    rw [List.takeWhile_append, if_neg]
    intro hlen
    have hall := List.takeWhile_eq_self_iff.mp ((List.takeWhile_prefix _).eq_of_length hlen)
    exact h ⟨endsInSlot_append_run [] hall, hhead⟩

theorem dropWhile_append_of_not_fuses {rest t : Text} (h : ¬Fuses ('?' :: rest) t) :
    (rest ++ t).dropWhile Tag.isTagChar = rest.dropWhile Tag.isTagChar ++ t := by
  apply (List.append_right_inj ((rest ++ t).takeWhile Tag.isTagChar)).mp
  rw [List.takeWhile_append_dropWhile, takeWhile_append_of_not_fuses h, ← List.append_assoc,
    List.takeWhile_append_dropWhile]

/-- What follows cannot change the brace that comes next, if there is one. -/
theorem head?_fromBrace_append {s : Text} (h : '}' ∈ s) (t : Text) :
    (fromBrace (s ++ t)).head? = (fromBrace s).head? := by
  have hne : s.dropWhile (!isBrace ·) ≠ [] := by
    intro hnil
    exact absurd (List.dropWhile_eq_nil_iff.mp hnil '}' h) (by decide)
  rw [fromBrace, fromBrace, List.dropWhile_append, if_neg (by simpa using hne),
    List.head?_append_of_ne_nil _ hne]

/-- The scan of two texts that meet at a seam is the scan of each of them. -/
theorem scan_append {s t : Text} (hclosed : IsClosed s) (hseam : ¬Fuses s t) :
    scan ⟨true, true⟩ (s ++ t) = scan ⟨true, true⟩ s ++ scan ⟨true, true⟩ t := by
  fun_induction scan ⟨true, true⟩ s with
  | case1 => rfl
  | case2 c rest hc ih =>
    obtain ⟨rfl, -⟩ := hc
    have hsplit : '?' :: rest =
        ('?' :: rest.takeWhile Tag.isTagChar) ++ rest.dropWhile Tag.isTagChar := by
      rw [List.cons_append, List.takeWhile_append_dropWhile]
    have htail := ih (by rw [hsplit] at hclosed; exact hclosed.of_append)
      (by rw [hsplit] at hseam; exact not_fuses_of_append hseam)
    rw [List.cons_append, scan, if_pos ⟨rfl, rfl⟩, takeWhile_append_of_not_fuses hseam,
      dropWhile_append_of_not_fuses hseam, htail, List.cons_append]
  | case3 c rest hmark hc ih =>
    obtain ⟨rfl, -, hclose⟩ := hc
    have hplain : ∀ c ∈ interior rest, isBrace c = false := fun c => not_isBrace_of_mem_interior
    have hsplit := eq_source_append hclose
    have htail := ih (by rw [hsplit] at hclosed; exact hclosed.of_append)
      (by rw [hsplit] at hseam; exact not_fuses_of_append hseam)
    have hrest : rest ++ t = interior rest ++ '}' :: ((fromBrace rest).tail ++ t) := by
      conv_lhs => rw [eq_interior_append hclose]
      simp
    have hfrom : fromBrace (rest ++ t) = '}' :: ((fromBrace rest).tail ++ t) := by
      rw [hrest, fromBrace_append hplain, fromBrace_close]
    have hinterior : interior (rest ++ t) = interior rest := by
      rw [hrest, interior_append_close hplain]
    rw [List.cons_append, scan, if_neg hmark, hfrom, if_pos ⟨rfl, rfl, rfl⟩, hinterior,
      List.tail_cons, htail, List.cons_append]
  | case4 c rest hmark hblock ih =>
    have htail := ih (IsClosed.of_append (s := [c]) hclosed) (not_fuses_of_append (u := [c]) hseam)
    have hopen : ¬(c = '{' ∧ True ∧ (fromBrace (rest ++ t)).head? = some '}') := by
      rintro ⟨rfl, -, hhead⟩
      rw [head?_fromBrace_append (hclosed [] rest rfl)] at hhead
      exact hblock ⟨rfl, rfl, hhead⟩
    rw [List.cons_append, scan, if_neg hmark, if_neg (by simpa using hopen), htail,
      List.cons_append]

/-! ### The outcome at a seam -/

/-- From two places on the two lists hold the same arguments, at least as many as given. -/
def Agree (args : List Value) (n : Nat) (args' : List Value) (m count : Nat) : Prop :=
  ∀ i < count, ∃ v, args[n + i]? = some v ∧ args'[m + i]? = some v

theorem agree_append (front args : List Value) (n count : Nat) (h : n + count ≤ args.length) :
    Agree (front ++ args) (front.length + n) args n count := by
  intro i hi
  have hlt : n + i < args.length := by omega
  refine ⟨args[n + i], ?_, List.getElem?_eq_getElem hlt⟩
  rw [Nat.add_assoc, List.getElem?_append_right (by omega), Nat.add_sub_cancel_left,
    List.getElem?_eq_getElem hlt]

theorem agree_append_right (args back : List Value) (n count : Nat) (h : n + count ≤ args.length) :
    Agree (args ++ back) n args n count := by
  intro i hi
  have hlt : n + i < args.length := by omega
  refine ⟨args[n + i], ?_, List.getElem?_eq_getElem hlt⟩
  rw [List.getElem?_append_left hlt, List.getElem?_eq_getElem hlt]

theorem Agree.left {args args' : List Value} {n m a b : Nat} (h : Agree args n args' m (a + b)) :
    Agree args n args' m a := fun i hi => h i (by omega)

theorem Agree.right {args args' : List Value} {n m a b : Nat} (h : Agree args n args' m (a + b)) :
    Agree args (n + a) args' (m + a) b := by
  intro i hi
  have hv := h (a + i) (by omega)
  rwa [← Nat.add_assoc, ← Nat.add_assoc] at hv

theorem Agree.head {args args' : List Value} {n m count : Nat}
    (h : Agree args n args' m count) (hcount : 0 < count) :
    ∃ v, args[n]? = some v ∧ args'[m]? = some v := h 0 hcount

/-- Segments give the same text for arguments that agree, if the blocks among them do. -/
theorem joined_segmentPieces_congr {args args' : List Value}
    (onBlock onBlock' : Nat → Text → List Piece) (segments : List Segment) (n m : Nat)
    (hblock : ∀ body, .block body ∈ segments → ∀ k l, Agree args k args' l (body.count '?') →
      joined args (onBlock k body) = joined args' (onBlock' l body))
    (hargs : Agree args n args' m (segments.map slotsIn).sum) :
    joined args (segmentPieces onBlock n segments) =
      joined args' (segmentPieces onBlock' m segments) := by
  induction segments generalizing n m with
  | nil => rfl
  | cons segment rest ih =>
    rw [List.map_cons, List.sum_cons] at hargs
    have htail := ih _ _ (fun body hbody => hblock body (List.mem_cons_of_mem segment hbody))
      hargs.right
    cases segment with
    | char c =>
      rw [segmentPieces, segmentPieces, joined_cons, joined_cons]
      simp only [slotsIn, Nat.add_zero] at htail
      rw [htail]
      rfl
    | slot run =>
      obtain ⟨v, hv, hv'⟩ := hargs.left.head Nat.one_pos
      have hslot : slotText args n run = slotText args' m run := by
        rw [slotText, slotText, hv, hv']
      simp only [slotsIn] at htail
      rw [segmentPieces, segmentPieces, List.cons_append, List.cons_append, joined_cons,
        joined_cons, joined_append, joined_append, joined_map_nothing, joined_map_nothing, htail]
      show (slotText args n run).bind _ = (slotText args' m run).bind _
      rw [hslot]
    | block body =>
      rw [segmentPieces, segmentPieces, joined_append, joined_append,
        hblock body List.mem_cons_self n m hargs.left]
      simp only [slotsIn] at htail
      rw [htail]

theorem joined_blockPieces_congr {args args' : List Value} (body : Text) (k l : Nat)
    (hargs : Agree args k args' l (body.count '?')) :
    joined args (blockPieces (skipsOf args) k body) =
      joined args' (blockPieces (skipsOf args') l body) := by
  rw [blockPieces, blockPieces]
  by_cases hmark : '?' ∈ body
  · obtain ⟨v, hv, hv'⟩ := hargs.head (List.count_pos_iff.mpr hmark)
    have hslots := sum_slotsIn_scan false body
    have hinner := joined_segmentPieces_congr (fun _ _ => []) (fun _ _ => []) (slots body) k l
      (fun b hb => absurd hb (block_not_mem_slots body b)) (by rw [slots, hslots]; exact hargs)
    rw [if_pos hmark, if_pos hmark, ← isSkip_iff_skipsOf hv, ← isSkip_iff_skipsOf hv']
    split_ifs
    · rw [joined_map_nothing, joined_map_nothing]
    · rw [List.cons_append, List.cons_append, joined_cons, joined_cons, joined_append,
        joined_append, hinner]
      rfl
  · rw [if_neg hmark, if_neg hmark, joined_map_kept, joined_map_kept]

/-- What segments give, the first slot of which takes the argument with the given number. -/
def filled (args : List Value) (n : Nat) (segments : List Segment) : Except Failure Text :=
  joined args (segmentPieces (blockPieces (skipsOf args)) n segments)

theorem filled_congr {args args' : List Value} {segments : List Segment} {n m : Nat}
    (hargs : Agree args n args' m (segments.map slotsIn).sum) :
    filled args n segments = filled args' m segments :=
  joined_segmentPieces_congr _ _ segments n m
    (fun body _ k l => joined_blockPieces_congr body k l) hargs

theorem segmentPieces_append (onBlock : Nat → Text → List Piece) (n : Nat)
    (front back : List Segment) :
    segmentPieces onBlock n (front ++ back) =
      segmentPieces onBlock n front ++
        segmentPieces onBlock (n + (front.map slotsIn).sum) back := by
  induction front generalizing n with
  | nil => rfl
  | cons segment rest ih =>
    rw [List.map_cons, List.sum_cons, ← Nat.add_assoc]
    cases segment <;> simp [segmentPieces, slotsIn, ih]

theorem filled_append_eq_ok_iff {args : List Value} {front back : List Segment} {n : Nat}
    {sql : Text} :
    filled args n (front ++ back) = .ok sql ↔ ∃ x y, filled args n front = .ok x ∧
      filled args (n + (front.map slotsIn).sum) back = .ok y ∧ sql = x ++ y := by
  rw [filled, segmentPieces_append, joined_append_eq_ok_iff]
  rfl

/-- A template is filled if it is well formed, has as many slots as there are arguments, and all
its segments have a text. -/
theorem compile_eq_ok_iff {s : Text} {args : List Value} {sql : Text} :
    compile s args = .ok sql ↔ IsWellFormed s ∧ s.count '?' = args.length ∧
      filled args 0 (scan ⟨true, true⟩ s) = .ok sql := by
  rw [← and_assoc, ← validate_eq_ok_iff, filled, ← pieces_eq_segmentPieces]
  constructor
  · intro h
    have hvalid := validate_of_compile_eq_ok h
    exact ⟨hvalid, by rwa [← compile_eq_joined hvalid]⟩
  · rintro ⟨hvalid, h⟩
    rwa [compile_eq_joined hvalid]

/-- Two templates that meet at a seam are filled each with its own arguments. -/
theorem compile_append_eq_ok_iff {s t : Text} {front back : List Value} {sql : Text}
    (hclosed : IsClosed s) (hseam : ¬Fuses s t) (hfront : front.length = s.count '?') :
    compile (s ++ t) (front ++ back) = .ok sql ↔
      ∃ x y, compile s front = .ok x ∧ compile t back = .ok y ∧ sql = x ++ y := by
  have hs := sum_slotsIn_scan true s
  have ht := sum_slotsIn_scan true t
  have hleft : filled (front ++ back) 0 (scan ⟨true, true⟩ s) =
      filled front 0 (scan ⟨true, true⟩ s) :=
    filled_congr (agree_append_right front back 0 _ (by omega))
  have hright (hcount : t.count '?' = back.length) :
      filled (front ++ back) (s.count '?') (scan ⟨true, true⟩ t) =
        filled back 0 (scan ⟨true, true⟩ t) := by
    rw [← hfront]
    exact filled_congr (agree_append front back 0 _ (by omega))
  simp only [compile_eq_ok_iff, isWellFormed_append_iff hclosed, scan_append hclosed hseam,
    filled_append_eq_ok_iff, List.count_append, List.length_append, hs, Nat.zero_add, hleft]
  constructor
  · rintro ⟨⟨hwell, hwell'⟩, hcount, x, y, hx, hy, rfl⟩
    have hback : t.count '?' = back.length := by omega
    rw [hright hback] at hy
    exact ⟨x, y, ⟨hwell, hfront.symm, hx⟩, ⟨hwell', hback, hy⟩, rfl⟩
  · rintro ⟨x, y, ⟨hwell, -, hx⟩, ⟨hwell', hback, hy⟩, rfl⟩
    rw [← hright hback] at hy
    exact ⟨⟨hwell, hwell'⟩, by omega, x, y, hx, hy, rfl⟩

/-- Two templates that meet at a seam are filled together exactly if each of them is filled on its
own, and then the text of the first stands before the text of the second. -/
theorem filled_together_iff_each (s t : Text) (front back : List Value) (hclosed : IsClosed s)
    (hseam : ¬Fuses s t) (hfront : front.length = s.count '?') :
    ((∃ sql, compile (s ++ t) (front ++ back) = .ok sql) ↔
      (∃ x, compile s front = .ok x) ∧ ∃ y, compile t back = .ok y) ∧
    ∀ sql x y, compile (s ++ t) (front ++ back) = .ok sql → compile s front = .ok x →
      compile t back = .ok y → sql = x ++ y := by
  simp only [compile_append_eq_ok_iff hclosed hseam hfront]
  constructor
  · constructor
    · rintro ⟨_, x, y, hx, hy, -⟩
      exact ⟨⟨x, hx⟩, y, hy⟩
    · rintro ⟨⟨x, hx⟩, y, hy⟩
      exact ⟨x ++ y, x, y, hx, hy, rfl⟩
  · rintro sql x y ⟨x', y', hx', hy', rfl⟩ hx hy
    obtain rfl := Except.ok.inj (hx'.symm.trans hx)
    obtain rfl := Except.ok.inj (hy'.symm.trans hy)
    rfl

theorem filled_together_iff_each_stray_braces :
    ∃ sql, compile ("a {b ?d} ?".toList ++ "\x7d ? \x7by".toList)
        ([.skip, .int 2] ++ [.text ['q']]) = .ok sql ∧ sql = "a  2\x7d 'q' \x7by".toList := by
  have hblock : ∀ c ∈ "b ?d".toList, isBrace c = false := by simp [isBrace]
  have hclosed : IsClosed "a {b ?d} ?".toList :=
    ((isClosed_of_not_mem (s := ['a', ' ']) (by decide)).append (isClosed_block hblock)).append
      (isClosed_of_not_mem (by decide))
  have hparts := filled_together_iff_each _ "\x7d ? \x7by".toList [.skip, .int 2] [.text ['q']]
    hclosed (fun hfuses => absurd hfuses.2 (by decide)) (by decide)
  have hfront : compile "a {b ?d} ?".toList [.skip, .int 2] = .ok "a  2".toList := by
    decide +kernel
  have hback : compile "\x7d ? \x7by".toList [.text ['q']] = .ok "\x7d 'q' \x7by".toList := by
    decide +kernel
  obtain ⟨sql, hsql⟩ := hparts.1.mpr ⟨⟨_, hfront⟩, _, hback⟩
  exact ⟨sql, hsql, hparts.2 sql _ _ hsql hfront hback⟩

end QueryTemplate.Template
