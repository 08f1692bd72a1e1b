import QueryTemplate.Proofs.Template.Piece
import QueryTemplate.Proofs.Template.Verdict

/-! The pieces of a template are those of its segments. The scan cuts from left to right and the
pieces are read off the text around each character; the two agree because at every cut the text
before it ends in no slot that goes on and the place is inside no closed pair of braces. -/

namespace QueryTemplate.Template

open Segment

/-! ### Spreading over parts of a text -/

theorem spread_append (f : Text → Char → Text → Piece) (before s t after : Text) :
    spread f before (s ++ t) after =
      spread f before s (t ++ after) ++ spread f (before ++ s) t after := by
  induction s generalizing before with
  | nil => simp [spread]
  | cons c s ih => simp [spread, ih]

theorem spread_congr {f g : Text → Char → Text → Piece} {before s after : Text}
    (h : ∀ x c y, s = x ++ c :: y →
      f (before ++ x) c (y ++ after) = g (before ++ x) c (y ++ after)) :
    spread f before s after = spread g before s after := by
  induction s generalizing before with
  | nil => rfl
  | cons c s ih =>
    have hhead := h [] c s rfl
    rw [List.append_nil] at hhead
    rw [spread, spread, hhead, ih]
    intro x d y hs
    have htail := h (c :: x) d y (by rw [hs, List.cons_append])
    rwa [List.append_cons] at htail

theorem spread_const (g : Char → Piece) (before s after : Text) :
    spread (fun _ c _ => g c) before s after = s.map g := by
  induction s generalizing before with
  | nil => rfl
  | cons c s ih => rw [spread, ih, List.map_cons]

theorem spread_eq_map {f : Text → Char → Text → Piece} {before s after : Text} (g : Char → Piece)
    (h : ∀ x c y, s = x ++ c :: y → f (before ++ x) c (y ++ after) = g c) :
    spread f before s after = s.map g := by
  rw [← spread_const g before s after]
  exact spread_congr h

theorem length_spread (f : Text → Char → Text → Piece) (before s after : Text) :
    (spread f before s after).length = s.length := by
  induction s generalizing before with
  | nil => rfl
  | cons c s ih => rw [spread, List.length_cons, ih, List.length_cons]

/-! ### Where a slot ends -/

theorem endsInSlot_concat (before : Text) (c : Char) :
    endsInSlot (before ++ [c]) =
      if Tag.isTagChar c then endsInSlot before else decide (c = '?') := by
  by_cases h : Tag.isTagChar c <;> simp [endsInSlot, h]

theorem endsInSlot_append_run (before : Text) {run : Text} (h : ∀ c ∈ run, Tag.isTagChar c = true) :
    endsInSlot (before ++ '?' :: run) = true := by
  induction run using List.reverseRecOn with
  | nil => rw [endsInSlot_concat]; rfl
  | append_singleton run c ih =>
    rw [← List.cons_append, ← List.append_assoc, endsInSlot_concat, if_pos (h c (by simp))]
    exact ih fun d hd => h d (by simp [hd])

theorem endsInSlot_append_eq_false {before s : Text} (h : endsInSlot before = false)
    (hs : '?' ∉ s) : endsInSlot (before ++ s) = false := by
  induction s using List.reverseRecOn with
  | nil => rwa [List.append_nil]
  | append_singleton s c ih =>
    rw [List.mem_append, not_or, List.mem_singleton] at hs
    rw [← List.append_assoc, endsInSlot_concat, ih hs.1]
    split_ifs
    · rfl
    · exact decide_eq_false (Ne.symm hs.2)

theorem endsInSlot_brace (before : Text) {c : Char} (h : isBrace c = true) :
    endsInSlot (before ++ [c]) = false := by
  have hc : c = '{' ∨ c = '}' := by simpa [isBrace] using h
  rw [endsInSlot_concat]
  rcases hc with rfl | rfl <;> rfl

/-- A run ends where the next character is no tag character. -/
theorem takeWhile_isTagChar_append (s : Text) {after : Text}
    (h : after.head?.any Tag.isTagChar = false) :
    (s ++ after).takeWhile Tag.isTagChar = s.takeWhile Tag.isTagChar := by
  induction s with
  | nil =>
    cases after with
    | nil => rfl
    | cons c after => rw [List.nil_append, List.takeWhile_cons_of_neg (by simpa using h)]; rfl
  | cons c s ih =>
    rw [List.cons_append, List.takeWhile_cons, List.takeWhile_cons, ih]

/-! ### Pairs of braces around a place -/

/-- Within a text without braces the pair does not depend on the place. -/
theorem pairAround?_append (before : Text) {s : Text} (h : ∀ c ∈ s, isBrace c = false)
    (after : Text) : pairAround? (before ++ s) after = pairAround? before (s ++ after) := by
  have hrev : ∀ c ∈ s.reverse, isBrace c = false := fun c hc => h c (List.mem_reverse.mp hc)
  simp only [pairAround?, List.reverse_append, fromBrace_append hrev, interior_append hrev,
    fromBrace_append h, interior_append h, List.reverse_reverse, List.append_assoc]

theorem pairAround?_between (before : Text) {s t : Text} (hs : ∀ c ∈ s, isBrace c = false)
    (ht : ∀ c ∈ t, isBrace c = false) (after : Text) :
    pairAround? (before ++ '{' :: s) (t ++ '}' :: after) = some ⟨before.count '?', s ++ t⟩ := by
  rw [List.append_cons, pairAround?_append _ hs, ← List.append_assoc]
  have hst : ∀ c ∈ s ++ t, isBrace c = false := by
    intro c hc
    rcases List.mem_append.mp hc with hc | hc
    · exact hs c hc
    · exact ht c hc
  have hback : (before ++ ['{']).reverse = '{' :: before.reverse := by simp
  have hcount : ('{' :: before.reverse).count '?' = before.count '?' := by
    rw [List.count_cons_of_ne (by decide), List.count_reverse]
  simp only [pairAround?, hback, fromBrace_append hst, fromBrace_cons (c := '{') rfl,
    fromBrace_close, interior_cons (c := '{') rfl, interior_append_close hst, hcount,
    List.head?_cons, List.reverse_nil, List.nil_append, and_self, if_true]

theorem pairAround?_close (before after : Text) : pairAround? (before ++ ['}']) after = none := by
  have hclose : isBrace '}' = true := rfl
  simp [pairAround?, fromBrace_cons hclose]

theorem pairAround?_eq_none_of_head?_ne (before : Text) {after : Text}
    (h : (fromBrace after).head? ≠ some '}') : pairAround? before after = none := by
  simp [pairAround?, h]

/-- Every character of a block belongs to the pair of its braces. -/
theorem pairOf?_of_source_eq (before : Text) {body x y : Text} {c : Char}
    (hbody : ∀ d ∈ body, isBrace d = false) (h : source (.block body) = x ++ c :: y)
    (after : Text) : pairOf? (before ++ x) c (y ++ after) = some ⟨before.count '?', body⟩ := by
  rw [source] at h
  cases x with
  | nil =>
    obtain ⟨rfl, rfl⟩ := List.cons.inj h
    have hpair := pairAround?_between before (s := []) (by simp) hbody after
    simpa [pairOf?] using hpair
  | cons d x =>
    obtain ⟨rfl, hsplit⟩ : '{' = d ∧ body ++ ['}'] = x ++ c :: y := List.cons.inj h
    clear h
    induction y using List.reverseRecOn with
    | nil =>
      obtain ⟨rfl, hlast⟩ := List.append_inj' hsplit rfl
      obtain ⟨rfl, -⟩ := List.cons.inj hlast
      have hpair := pairAround?_between before (t := []) hbody (by simp) after
      simpa [pairOf?] using hpair
    | append_singleton y d _ =>
      rw [← List.cons_append, ← List.append_assoc] at hsplit
      obtain ⟨rfl, hlast⟩ := List.append_inj' hsplit rfl
      obtain ⟨rfl, -⟩ := List.cons.inj hlast
      have hx : ∀ e ∈ x, isBrace e = false := fun e he => hbody e (by simp [he])
      have hy : ∀ e ∈ c :: y, isBrace e = false := fun e he => hbody e (List.mem_append_right _ he)
      have hc : c ≠ '{' := by
        rintro rfl
        exact absurd (hy '{' (by simp)) (by decide)
      have hpair := pairAround?_between before hx hy after
      rw [pairOf?, if_neg hc]
      simpa using hpair

/-! ### Segments and their pieces -/

/-- The pieces of segments, the first slot of which has the given number. -/
def segmentPieces (onBlock : Nat → Text → List Piece) : Nat → List Segment → List Piece
  | _, [] => []
  | number, .char c :: rest => .kept c :: segmentPieces onBlock number rest
  | number, .slot run :: rest =>
    .slot number run :: run.map (fun _ => .nothing) ++ segmentPieces onBlock (number + 1) rest
  | number, .block body :: rest =>
    onBlock number body ++ segmentPieces onBlock (number + body.count '?') rest

/-- The pieces of a block. -/
def blockPieces (skips : Nat → Bool) (number : Nat) (body : Text) : List Piece :=
  if '?' ∈ body then
    if skips number then (source (.block body)).map fun _ => .nothing
    else .nothing :: segmentPieces (fun _ _ => []) number (slots body) ++ [.nothing]
  else (source (.block body)).map .kept

theorem isRemoved_of_source_eq (skips : Nat → Bool) (before : Text) {body x y : Text} {c : Char}
    (hbody : ∀ d ∈ body, isBrace d = false) (h : source (.block body) = x ++ c :: y)
    (after : Text) : isRemoved skips (before ++ x) c (y ++ after) =
      (decide ('?' ∈ body) && (skips (before.count '?') || isBrace c)) := by
  rw [isRemoved, pairOf?_of_source_eq before hbody h after]
  simp

/-- A run gives nothing after its question mark. -/
theorem spread_run (blocks : Bool) (skips : Nat → Bool) (before : Text) {run : Text}
    (h : ∀ c ∈ run, Tag.isTagChar c = true) (after : Text) :
    spread (pieceAt blocks skips) (before ++ ['?']) run after = run.map fun _ => .nothing := by
  apply spread_eq_map
  intro x c y hrun
  subst hrun
  have hc : Tag.isTagChar c = true := h c (by simp)
  have hmark : c ≠ '?' := by
    rintro rfl
    exact absurd hc (by decide)
  have hslot : endsInSlot (before ++ ['?'] ++ x) = true := by
    rw [← List.append_cons]
    exact endsInSlot_append_run before fun d hd => h d (by simp [hd])
  simp only [pieceAt, hc, hmark, hslot, Bool.and_self, if_false, if_true, ite_self]

/-- A block without a slot is copied. -/
theorem spread_block_of_not_mem (skips : Nat → Bool) (before : Text) {body : Text}
    (hbody : ∀ d ∈ body, isBrace d = false) (hmark : '?' ∉ body) (after : Text) :
    spread (pieceAt true skips) before (source (.block body)) after =
      (source (.block body)).map .kept := by
  apply spread_eq_map
  intro x c y hsource
  have hremoved := isRemoved_of_source_eq skips before hbody hsource after
  rw [decide_eq_false hmark, Bool.false_and] at hremoved
  have hsourceMark : '?' ∉ source (.block body) := by simp [source, hmark]
  rw [hsource] at hsourceMark
  have hc : c ≠ '?' := by
    rintro rfl
    exact hsourceMark (by simp)
  have hrun : (Tag.isTagChar c && endsInSlot (before ++ x)) = false := by
    cases x with
    | nil =>
      obtain ⟨rfl, -⟩ := List.cons.inj hsource
      rfl
    | cons d x =>
      obtain ⟨rfl, -⟩ := List.cons.inj hsource
      rw [List.append_cons, endsInSlot_append_eq_false (endsInSlot_brace before rfl),
        Bool.and_false]
      exact fun hmem => hsourceMark (by simp [hmem])
  simp [pieceAt, hremoved, hc, hrun]

/-- A block that is skipped gives nothing. -/
theorem spread_block_of_skips {skips : Nat → Bool} {before body : Text}
    (hbody : ∀ d ∈ body, isBrace d = false) (hmark : '?' ∈ body)
    (hskip : skips (before.count '?') = true) (after : Text) :
    spread (pieceAt true skips) before (source (.block body)) after =
      (source (.block body)).map fun _ => .nothing := by
  apply spread_eq_map
  intro x c y hsource
  have hremoved := isRemoved_of_source_eq skips before hbody hsource after
  rw [decide_eq_true hmark, hskip, Bool.true_or, Bool.true_and] at hremoved
  simp [pieceAt, hremoved]

/-- A block that is filled loses its braces, and within it braces have no meaning. -/
theorem spread_block_of_not_skips {skips : Nat → Bool} {before body : Text}
    (hbody : ∀ d ∈ body, isBrace d = false) (hmark : '?' ∈ body)
    (hskip : skips (before.count '?') = false) (after : Text) :
    spread (pieceAt true skips) before (source (.block body)) after =
      .nothing :: spread (pieceAt false skips) (before ++ ['{']) body ('}' :: after) ++
        [.nothing] := by
  have hremoved : ∀ {x c y}, source (.block body) = x ++ c :: y →
      isRemoved skips (before ++ x) c (y ++ after) = isBrace c := by
    intro x c y hsource
    rw [isRemoved_of_source_eq skips before hbody hsource, decide_eq_true hmark, hskip,
      Bool.false_or, Bool.true_and]
  have hopen : pieceAt true skips before '{' (body ++ '}' :: after) = .nothing := by
    have h := hremoved (x := []) (c := '{') (y := body ++ ['}']) rfl
    rw [List.append_nil, List.append_assoc] at h
    simp only [pieceAt, Bool.true_and]
    exact if_pos h
  have hclose : pieceAt true skips (before ++ '{' :: body) '}' after = .nothing := by
    have h := hremoved (x := '{' :: body) (c := '}') (y := []) rfl
    simp only [pieceAt, Bool.true_and]
    exact if_pos h
  have hinner : spread (pieceAt true skips) (before ++ ['{']) body ('}' :: after) =
      spread (pieceAt false skips) (before ++ ['{']) body ('}' :: after) := by
    apply spread_congr
    intro x c y hxy
    have hsource : source (.block body) = ('{' :: x) ++ c :: (y ++ ['}']) := by
      rw [source, hxy]
      simp
    have h := hremoved hsource
    rw [hbody c (by simp [hxy]), List.append_cons, List.append_assoc] at h
    simp only [pieceAt, Bool.true_and, Bool.false_and]
    exact if_neg (by simpa using h)
  rw [source, List.cons_append, spread, spread_append, spread, spread, List.append_assoc]
  simp only [List.singleton_append, List.nil_append]
  rw [hopen, hinner, ← List.append_cons, hclose]
  rfl

/-! ### The scan -/

theorem count_mark_of_forall_isTagChar {run : Text} (h : ∀ c ∈ run, Tag.isTagChar c = true) :
    run.count '?' = 0 := by
  rw [List.count_eq_zero]
  intro hmem
  exact absurd (h '?' hmem) (by decide)

theorem not_isBrace_of_isTagChar {c : Char} (h : Tag.isTagChar c = true) : isBrace c = false := by
  simp only [Tag.isTagChar, Bool.or_eq_true, decide_eq_true_eq] at h
  rcases h with ((rfl | rfl) | rfl) | rfl <;> rfl

/-- A run leaves no tag character behind it. -/
theorem any_head?_dropWhile_isTagChar (s : Text) :
    (s.dropWhile Tag.isTagChar).head?.any Tag.isTagChar = false := by
  cases hdrop : s.dropWhile Tag.isTagChar with
  | nil => rfl
  | cons c rest =>
    have hc := List.head?_dropWhile_not Tag.isTagChar s
    rw [hdrop] at hc
    simpa using hc

section Cut

variable {blocks : Bool} {before rest after : Text} (hend : blocks = true → after = [])

include hend

theorem removed_eq_false (skips : Nat → Bool) {c : Char}
    (hpair : blocks = true → pairOf? before c rest = none) :
    (blocks && isRemoved skips before c (rest ++ after)) = false := by
  cases blocks with
  | false => rfl
  | true =>
    rw [hend rfl, List.append_nil, Bool.true_and, isRemoved, hpair rfl]
    rfl

theorem pieceAt_eq_slot (skips : Nat → Bool) (hafter : after.head?.any Tag.isTagChar = false)
    (hpair : blocks = true → pairAround? before ('?' :: rest) = none) :
    pieceAt blocks skips before '?' (rest ++ after) =
      .slot (before.count '?') (rest.takeWhile Tag.isTagChar) := by
  have hnone : blocks = true → pairOf? before '?' rest = none := by
    intro hblocks
    rw [pairOf?, if_neg (by decide)]
    exact hpair hblocks
  have hremoved := removed_eq_false hend skips hnone
  rw [pieceAt, hremoved, takeWhile_isTagChar_append rest hafter]
  rfl

theorem pieceAt_eq_kept (skips : Nat → Bool) {c : Char} (hmark : c ≠ '?')
    (hslot : Tag.isTagChar c = true → endsInSlot before = false)
    (hpair : blocks = true → pairOf? before c rest = none) :
    pieceAt blocks skips before c (rest ++ after) = .kept c := by
  have hrun : (Tag.isTagChar c && endsInSlot before) = false := by
    cases htag : Tag.isTagChar c with
    | false => rfl
    | true => rw [hslot htag]; rfl
  rw [pieceAt, removed_eq_false hend skips hpair, hrun, if_neg hmark]
  rfl

end Cut

/-- A cut between two segments: it does not go through a slot, and if braces have a meaning, it does
not lie inside a closed pair of them. -/
structure IsBoundary (blocks : Bool) (before s : Text) : Prop where
  slot : s.head?.any Tag.isTagChar = true → endsInSlot before = false
  pair : blocks = true → pairAround? before s = none

section Boundary

variable {blocks : Bool} {before rest : Text}

theorem IsBoundary.after_slot (h : IsBoundary blocks before ('?' :: rest)) :
    IsBoundary blocks (before ++ '?' :: rest.takeWhile Tag.isTagChar)
      (rest.dropWhile Tag.isTagChar) where
  slot htag := by
    rw [any_head?_dropWhile_isTagChar] at htag
    cases htag
  pair hblocks := by
    have hplain : ∀ c ∈ '?' :: rest.takeWhile Tag.isTagChar, isBrace c = false := by
      intro c hc
      rcases List.mem_cons.mp hc with rfl | hc
      · rfl
      · exact not_isBrace_of_isTagChar (List.mem_takeWhile_imp hc)
    rw [pairAround?_append before hplain, List.cons_append, List.takeWhile_append_dropWhile]
    exact h.pair hblocks

theorem isBoundary_after_block (blocks : Bool) (before body rest : Text) :
    IsBoundary blocks (before ++ source (.block body)) rest := by
  have hconcat : before ++ source (.block body) = (before ++ '{' :: body) ++ ['}'] := by
    simp [source]
  rw [hconcat]
  exact ⟨fun _ => endsInSlot_brace _ rfl, fun _ => pairAround?_close _ _⟩

/-- No pair of braces lies around the cut before a character that begins no segment of its own. -/
theorem IsBoundary.pairOf?_eq_none {c : Char} (h : IsBoundary blocks before (c :: rest))
    (hopen : ¬(c = '{' ∧ blocks = true ∧ (fromBrace rest).head? = some '}'))
    (hblocks : blocks = true) : pairOf? before c rest = none := by
  rw [pairOf?]
  split_ifs with hbrace
  · exact pairAround?_eq_none_of_head?_ne _ fun hhead => hopen ⟨hbrace, hblocks, hhead⟩
  · exact h.pair hblocks

theorem IsBoundary.after_char {c : Char} (h : IsBoundary blocks before (c :: rest))
    (hmark : c ≠ '?')
    (hopen : ¬(c = '{' ∧ blocks = true ∧ (fromBrace rest).head? = some '}')) :
    IsBoundary blocks (before ++ [c]) rest where
  slot _ := by
    rw [endsInSlot_concat]
    split_ifs with htag
    · exact h.slot htag
    · exact decide_eq_false hmark
  pair hblocks := by
    by_cases hbrace : isBrace c = true
    · have hc : c = '{' ∨ c = '}' := by simpa [isBrace] using hbrace
      rcases hc with hc | rfl
      · exact pairAround?_eq_none_of_head?_ne _ fun hhead => hopen ⟨hc, hblocks, hhead⟩
      · exact pairAround?_close _ _
    · rw [pairAround?_append before (by simpa using hbrace)]
      exact h.pair hblocks

end Boundary

/-- The pieces of a text, read off the text around each character, are those of the segments that
the scan cuts it into. -/
theorem spread_eq_segmentPieces (blocks : Bool) (skips : Nat → Bool)
    (onBlock : Nat → Text → List Piece)
    (hblock : blocks = true → ∀ before body after, (∀ c ∈ body, isBrace c = false) →
      spread (pieceAt true skips) before (source (.block body)) after =
        onBlock (before.count '?') body)
    (before s after : Text) (hafter : after.head?.any Tag.isTagChar = false)
    (hend : blocks = true → after = []) (hboundary : IsBoundary blocks before s) :
    spread (pieceAt blocks skips) before s after =
      segmentPieces onBlock (before.count '?') (scan ⟨blocks, true⟩ s) := by
  fun_induction scan ⟨blocks, true⟩ s generalizing before with
  | case1 => rfl
  | case2 c rest hc ih =>
    obtain ⟨rfl, -⟩ := hc
    have hrun : ∀ c ∈ rest.takeWhile Tag.isTagChar, Tag.isTagChar c = true :=
      fun c hc => List.mem_takeWhile_imp hc
    have hcount : (before ++ '?' :: rest.takeWhile Tag.isTagChar).count '?' =
        before.count '?' + 1 := by
      rw [List.count_append, List.count_cons_self, count_mark_of_forall_isTagChar hrun]
    have htail := ih (before ++ '?' :: rest.takeWhile Tag.isTagChar) hboundary.after_slot
    rw [hcount] at htail
    rw [segmentPieces, spread, pieceAt_eq_slot hend skips hafter hboundary.pair, ← htail]
    conv_lhs =>
      rw [← List.takeWhile_append_dropWhile (p := Tag.isTagChar) (l := rest), spread_append]
    rw [spread_run blocks skips before hrun, ← List.append_cons,
      List.takeWhile_append_dropWhile, List.cons_append]
  | case3 c rest _ hc ih =>
    obtain ⟨rfl, hblocks, hclose⟩ := hc
    replace hblocks : blocks = true := hblocks
    subst hblocks
    obtain rfl := hend rfl
    have hbody : ∀ c ∈ interior rest, isBrace c = false := fun c => not_isBrace_of_mem_interior
    have hcount : (before ++ source (.block (interior rest))).count '?' =
        before.count '?' + (interior rest).count '?' := by
      simp [source]
    have htail := ih (before ++ source (.block (interior rest)))
      (isBoundary_after_block true before _ _)
    rw [hcount] at htail
    rw [segmentPieces, ← htail, ← hblock rfl before _ ((fromBrace rest).tail ++ []) hbody,
      eq_source_append hclose, spread_append]
  | case4 c rest hmark hc ih =>
    replace hmark : c ≠ '?' := fun hc => hmark ⟨hc, rfl⟩
    have hcount : (before ++ [c]).count '?' = before.count '?' := by
      rw [List.count_append, List.count_singleton]
      simp [hmark]
    have hslot : Tag.isTagChar c = true → endsInSlot before = false := hboundary.slot
    have htail := ih (before ++ [c]) (hboundary.after_char hmark hc)
    rw [hcount] at htail
    rw [segmentPieces, spread,
      pieceAt_eq_kept hend skips hmark hslot (hboundary.pairOf?_eq_none hc), htail]

/-- The pieces of a text whose braces have no meaning. -/
theorem spread_eq_segmentPieces_slots (skips : Nat → Bool) (before s after : Text)
    (hafter : after.head?.any Tag.isTagChar = false) (hslot : endsInSlot before = false) :
    spread (pieceAt false skips) before s after =
      segmentPieces (fun _ _ => []) (before.count '?') (slots s) :=
  spread_eq_segmentPieces false skips _ (fun h => absurd h (by decide)) before s after hafter
    (fun h => absurd h (by decide)) ⟨fun _ => hslot, fun h => absurd h (by decide)⟩

theorem spread_block (skips : Nat → Bool) (before body after : Text)
    (hbody : ∀ c ∈ body, isBrace c = false) :
    spread (pieceAt true skips) before (source (.block body)) after =
      blockPieces skips (before.count '?') body := by
  rw [blockPieces]
  split_ifs with hmark hskip
  · exact spread_block_of_skips hbody hmark hskip after
  · rw [spread_block_of_not_skips hbody hmark (Bool.eq_false_iff.mpr hskip),
      spread_eq_segmentPieces_slots skips _ body _ rfl (endsInSlot_brace before rfl)]
    simp
  · exact spread_block_of_not_mem skips before hbody hmark after

/-- The pieces of a template are those of its segments. -/
theorem pieces_eq_segmentPieces (skips : Nat → Bool) (s : Text) :
    pieces true skips s = segmentPieces (blockPieces skips) 0 (scan ⟨true, true⟩ s) :=
  spread_eq_segmentPieces true skips _ (fun _ => spread_block skips) [] s [] rfl (fun _ => rfl)
    ⟨fun _ => rfl, fun _ => rfl⟩

end QueryTemplate.Template
