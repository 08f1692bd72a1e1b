import QueryTemplate.Proofs.Template.Seam

/-! Where the scans find what. The blocks are the same whether slots are looked for or not; the
slots of the whole text are those outside of blocks and, in their places, those of the interiors.
The search for nested blocks opens and closes a block at the braces where the scans see one begin
and end. -/

namespace QueryTemplate

namespace Segment

/-- A block or a slot in a text, and the place of its first character. -/
structure Located where
  start : Nat
  segment : Segment
  deriving DecidableEq, Repr

namespace Located

/-- The place after its last character. -/
def stop (o : Located) : Nat := o.start + o.segment.source.length

def isBlock (o : Located) : Bool := o.segment.body?.isSome

/-- The same in a text with so many characters in front of it. -/
def shift (n : Nat) (o : Located) : Located := ⟨o.start + n, o.segment⟩

end Located

/-- The blocks and slots among segments, the first of which stands at the given place. -/
def located : Nat → List Segment → List Located
  | _, [] => []
  | start, .char _ :: rest => located (start + 1) rest
  | start, .slot run :: rest =>
    ⟨start, .slot run⟩ :: located (start + (Tag.placeholder run).length) rest
  | start, .block body :: rest =>
    ⟨start, .block body⟩ :: located (start + (source (.block body)).length) rest

/-- What a scan finds in a text. -/
def found (marks : Marks) (s : Text) : List Located := located 0 (scan marks s)

/-- The slots that an occurrence stands for: a slot itself, the slots in the interior of a block. -/
def Located.slots (o : Located) : List Located :=
  match o.segment with
  | .block body => (found ⟨false, true⟩ body).map (shift (o.start + 1))
  | _ => [o]

/-! ### Places -/

theorem length_source_block (body : Text) : (source (.block body)).length = body.length + 2 := by
  simp [source]

theorem Located.stop_block (i : Nat) (body : Text) :
    Located.stop ⟨i, .block body⟩ = i + body.length + 1 + 1 := by
  rw [Located.stop, length_source_block, Nat.add_assoc i, Nat.add_assoc i]

theorem located_append (start : Nat) (front back : List Segment) :
    located start (front ++ back) =
      located start front ++ located (start + (front.flatMap source).length) back := by
  induction front generalizing start with
  | nil => rfl
  | cons segment front ih =>
    rw [List.flatMap_cons, List.length_append, ← Nat.add_assoc]
    cases segment with
    | char c => exact ih (start + 1)
    | slot run => exact congrArg _ (ih _)
    | block body => exact congrArg _ (ih _)

theorem located_map_char (start : Nat) (s : Text) : located start (s.map .char) = [] := by
  induction s generalizing start with
  | nil => rfl
  | cons c s ih => exact ih (start + 1)

theorem located_add (start n : Nat) (segments : List Segment) :
    located (start + n) segments = (located start segments).map (.shift n) := by
  induction segments generalizing start with
  | nil => rfl
  | cons segment rest ih =>
    have hmove (k : Nat) : start + n + k = start + k + n := by omega
    cases segment <;> simp [located, hmove, ih, Located.shift]

/-! ### The scans for blocks -/

/-- Where slots are not looked for, a text that opens nothing is read character by character. -/
theorem scan_append_of_open_not_mem (blocks : Bool) {front : Text} (h : '{' ∉ front) (s : Text) :
    scan ⟨blocks, false⟩ (front ++ s) = front.map .char ++ scan ⟨blocks, false⟩ s := by
  induction front with
  | nil => rfl
  | cons c front ih =>
    rw [List.mem_cons, not_or] at h
    rw [List.cons_append, scan, if_neg (by simp), if_neg (by simp [Ne.symm h.1]), ih h.2]
    rfl

theorem flatMap_source_map_char (s : Text) : (s.map .char).flatMap source = s := by
  simp [List.flatMap_map, source]

theorem located_of_open_not_mem (blocks : Bool) (start : Nat) {front : Text} (h : '{' ∉ front)
    (s : Text) : located start (scan ⟨blocks, false⟩ (front ++ s)) =
      located (start + front.length) (scan ⟨blocks, false⟩ s) := by
  rw [scan_append_of_open_not_mem blocks h, located_append, located_map_char,
    flatMap_source_map_char, List.nil_append]

/-- Looking for slots at the same time does not change the blocks. -/
theorem located_blocks (start : Nat) (s : Text) :
    located start (scan ⟨true, false⟩ s) =
      (located start (scan ⟨true, true⟩ s)).filter Located.isBlock := by
  fun_induction scan ⟨true, true⟩ s generalizing start with
  | case1 => rw [scan]; rfl
  | case2 c rest hc ih =>
    obtain ⟨rfl, -⟩ := hc
    have hopen : '{' ∉ '?' :: rest.takeWhile Tag.isTagChar := by
      rw [List.mem_cons, not_or]
      refine ⟨by decide, fun hmem => ?_⟩
      exact absurd (List.mem_takeWhile_imp hmem) (by decide)
    have hslot := located_of_open_not_mem true start hopen (rest.dropWhile Tag.isTagChar)
    rw [List.cons_append, List.takeWhile_append_dropWhile] at hslot
    rw [hslot, ih]
    rfl
  | case3 c rest hmark hc ih =>
    rw [scan, if_neg (by simp), if_pos hc, located, ih]
    rfl
  | case4 c rest hmark hc ih =>
    rw [scan, if_neg (by simp), if_neg hc]
    exact ih _

theorem block_mem_iff (start : Nat) (segments : List Segment) (body : Text) :
    .block body ∈ segments ↔ ∃ i, ⟨i, .block body⟩ ∈ located start segments := by
  induction segments generalizing start with
  | nil => simp [located]
  | cons segment rest ih =>
    cases segment with
    | char c => simp [located, ih (start + 1)]
    | slot run => simp [located, ih (start + (Tag.placeholder run).length)]
    | block other =>
      simp [located, ih (start + (source (.block other)).length), exists_or]

theorem block_mem_blocks_iff (s body : Text) :
    .block body ∈ blocks s ↔ .block body ∈ scan ⟨true, true⟩ s := by
  rw [block_mem_iff 0, block_mem_iff 0, blocks, located_blocks]
  simp [Located.isBlock, body?]

/-! ### The scans for slots -/

/-- The slots of two texts that meet at no slot are those of each of them. -/
theorem slots_append {s t : Text} (h : ¬Template.Fuses s t) :
    slots (s ++ t) = slots s ++ slots t := by
  unfold slots
  fun_induction scan ⟨false, true⟩ s with
  | case1 => rfl
  | case2 c rest hc ih =>
    obtain ⟨rfl, -⟩ := hc
    have hsplit : '?' :: rest =
        ('?' :: rest.takeWhile Tag.isTagChar) ++ rest.dropWhile Tag.isTagChar := by
      rw [List.cons_append, List.takeWhile_append_dropWhile]
    have htail := ih (by rw [hsplit] at h; exact Template.not_fuses_of_append h)
    rw [List.cons_append, scan, if_pos ⟨rfl, rfl⟩, Template.takeWhile_append_of_not_fuses h,
      Template.dropWhile_append_of_not_fuses h, htail, List.cons_append]
  | case3 c rest _ hc _ => exact absurd hc.2.1 (by decide)
  | case4 c rest hmark _ ih =>
    have htail := ih (Template.not_fuses_of_append (u := [c]) h)
    rw [List.cons_append, scan, if_neg hmark, if_neg (by simp), htail, List.cons_append]

theorem slots_brace {c : Char} (h : isBrace c = true) (s : Text) :
    slots (c :: s) = .char c :: slots s := by
  have hmark : c ≠ '?' := by
    rintro rfl
    exact absurd h (by decide)
  rw [slots, scan, if_neg (by simp [hmark]), if_neg (by simp), slots]

/-- The slots of a text that begins with a block are those of its interior and those after it. -/
theorem located_slots_block (start : Nat) (body back : Text) :
    located start (slots (source (.block body) ++ back)) =
      Located.slots ⟨start, .block body⟩ ++
        located (start + (source (.block body)).length) (slots back) := by
  have hclose : ¬Template.Fuses body ('}' :: back) := by
    rintro ⟨-, htag⟩
    cases htag
  have hsource : source (.block body) ++ back = '{' :: (body ++ '}' :: back) := by simp [source]
  have hinterior : Located.slots ⟨start, .block body⟩ =
      located (start + 1) (slots body) := by
    rw [← Nat.zero_add (start + 1), located_add]
    rfl
  have hback : start + 1 + body.length + 1 = start + (body.length + 2) := by omega
  rw [hsource, slots_brace rfl, slots_append hclose, slots_brace rfl, located,
    located_append, located, hinterior, length_source_block, slots, flatMap_source_scan,
    hback]

/-- The slots of a text are those outside of blocks and those of the interiors. -/
theorem located_slots (start : Nat) (s : Text) :
    located start (scan ⟨false, true⟩ s) =
      (located start (scan ⟨true, true⟩ s)).flatMap Located.slots := by
  fun_induction scan ⟨true, true⟩ s generalizing start with
  | case1 => rw [scan]; rfl
  | case2 c rest hc ih =>
    rw [scan, if_pos hc, located, ih]
    rfl
  | case3 c rest hmark hc ih =>
    obtain ⟨rfl, -, hclose⟩ := hc
    rw [eq_source_append hclose]
    refine (located_slots_block start _ _).trans ?_
    rw [slots, ih]
    rfl
  | case4 c rest hmark hc ih =>
    rw [scan, if_neg hmark, if_neg (by simp)]
    exact ih _

end Segment

namespace Brace

/-- The search for nested blocks with the places where it opens and closes a block: `opened` is the
place of the brace that is open. It fails at an opening brace inside an open block. -/
def pairsFrom (opened : Option Nat) (position : Nat) :
    List (Option Brace) → Except Nat (List (Nat × Nat))
  | [] => .ok []
  | some .opening :: rest =>
    match opened with
    | some _ => .error position
    | none => pairsFrom (some position) (position + 1) rest
  | some .closing :: rest =>
    match opened with
    | some i => (pairsFrom none (position + 1) rest).map ((i, position) :: ·)
    | none => pairsFrom none (position + 1) rest
  | none :: rest => pairsFrom opened (position + 1) rest

/-- Where a search fails. -/
def failure? : Except Nat (List (Nat × Nat)) → Option Nat
  | .error position => some position
  | .ok _ => none

/-- Keeping the places does not change what the search reports. -/
theorem nestedFrom?_isSome (opened : Option Nat) (position : Nat) (braces : List (Option Brace)) :
    nestedFrom? opened.isSome position braces = failure? (pairsFrom opened position braces) := by
  induction braces generalizing opened position with
  | nil => rfl
  | cons brace rest ih =>
    cases brace with
    | none => exact ih opened (position + 1)
    | some brace =>
      cases brace with
      | opening =>
        cases opened with
        | none => exact ih (some position) (position + 1)
        | some i => rfl
      | closing =>
        cases opened with
        | none => exact ih none (position + 1)
        | some i =>
          have hrest := ih none (position + 1)
          rw [pairsFrom]
          cases hpairs : pairsFrom none (position + 1) rest with
          | error j => rw [hpairs] at hrest; exact hrest
          | ok pairs => rw [hpairs] at hrest; exact hrest

theorem ofChar?_eq_none {c : Char} (h : Segment.isBrace c = false) : ofChar? c = none := by
  rw [Segment.isBrace, Bool.or_eq_false_iff, decide_eq_false_iff_not, decide_eq_false_iff_not] at h
  rw [ofChar?, if_neg h.1, if_neg h.2]

/-- A text without braces is passed over. -/
theorem pairsFrom_append (opened : Option Nat) (position : Nat) {front : Text}
    (h : ∀ c ∈ front, Segment.isBrace c = false) (braces : List (Option Brace)) :
    pairsFrom opened position (front.map ofChar? ++ braces) =
      pairsFrom opened (position + front.length) braces := by
  induction front generalizing position with
  | nil => rfl
  | cons c front ih =>
    rw [List.map_cons, List.cons_append, ofChar?_eq_none (h c List.mem_cons_self), pairsFrom,
      ih (position + 1) fun d hd => h d (List.mem_cons_of_mem c hd), List.length_cons]
    congr 1
    omega

/-- A block is opened, passed over and closed. -/
theorem pairsFrom_block (position : Nat) {body : Text}
    (h : ∀ c ∈ body, Segment.isBrace c = false) (braces : List (Option Brace)) :
    pairsFrom none position ((Segment.block body).source.map ofChar? ++ braces) =
      (pairsFrom none (position + (Segment.block body).source.length) braces).map
        ((position, position + (Segment.block body).source.length - 1) :: ·) := by
  have hsource : (Segment.block body).source.map ofChar? ++ braces =
      some .opening :: (body.map ofChar? ++ some .closing :: braces) := by
    simp [Segment.source, ofChar?]
  have hlast : position + (Segment.block body).source.length - 1 =
      position + 1 + body.length := by
    rw [Segment.length_source_block]
    omega
  have hnext : position + (Segment.block body).source.length =
      position + 1 + body.length + 1 := by
    rw [Segment.length_source_block]
    omega
  rw [hsource, pairsFrom, pairsFrom_append _ _ h, pairsFrom, hlast, hnext]

end Brace

namespace Template

open Segment

/-- An opening brace that begins no block is the last brace of the text, if none is nested. -/
theorem not_isBrace_of_head?_ne {rest : Text} (hnested : ∀ j, ¬IsNested ('{' :: rest) j)
    (h : (fromBrace rest).head? ≠ some '}') : ∀ c ∈ rest, isBrace c = false := by
  cases hback : fromBrace rest with
  | nil =>
    intro c hc
    simpa using List.dropWhile_eq_nil_iff.mp hback c hc
  | cons d back =>
    have hbrace : isBrace d = true := by
      have hhead := List.head?_dropWhile_not (!isBrace ·) rest
      rw [show rest.dropWhile (!isBrace ·) = d :: back from hback] at hhead
      simpa using hhead
    rw [hback, List.head?_cons, Ne, Option.some.injEq] at h
    have hopen : d = '{' := by simpa [isBrace, h] using hbrace
    have hsplit := interior_append_fromBrace rest
    rw [hback, hopen] at hsplit
    refine absurd ?_ (hnested ('{' :: interior rest).length)
    refine ⟨[], interior rest, back, congrArg (List.cons '{') hsplit.symm, ?_, rfl⟩
    intro hmem
    exact absurd (not_isBrace_of_mem_interior hmem) (by decide)

/-- The search opens and closes a block where the scan finds one. -/
theorem pairsFrom_eq_ok {s : Text} (hnested : ∀ j, ¬IsNested s j) (start : Nat) :
    Brace.pairsFrom none start (s.map Brace.ofChar?) =
      .ok ((located start (blocks s)).map fun o => (o.start, o.stop - 1)) := by
  unfold blocks
  fun_induction scan ⟨true, false⟩ s generalizing start with
  | case1 => rfl
  | case2 c rest hc _ => exact absurd hc.2 (by decide)
  | case3 c rest _ hc ih =>
    obtain ⟨rfl, -, hclose⟩ := hc
    have hplain : ∀ c ∈ interior rest, isBrace c = false := fun c => not_isBrace_of_mem_interior
    rw [eq_source_append hclose, List.map_append, Brace.pairsFrom_block start hplain,
      ih (not_isNested_tail_of_head? hnested hclose), located, List.map_cons]
    rfl
  | case4 c rest _ hc ih =>
    have hrest : ∀ j, ¬IsNested rest j := not_isNested_of_append [c] hnested
    by_cases hopen : c = '{'
    · -- the brace is never closed, and no brace comes after it
      subst hopen
      have hplain := not_isBrace_of_head?_ne hnested fun hhead => hc ⟨rfl, rfl, hhead⟩
      have hno : '{' ∉ rest := fun hmem => absurd (hplain '{' hmem) (by decide)
      have hwalk := Brace.pairsFrom_append (some start) (start + 1) hplain []
      have hscan := located_of_open_not_mem true (start + 1) hno []
      rw [List.append_nil] at hwalk hscan
      rw [located, hscan, scan]
      exact hwalk
    · rw [List.map_cons, located, ← ih hrest (start + 1)]
      by_cases hshut : c = '}'
      · subst hshut
        rfl
      · rw [Brace.ofChar?, if_neg hopen, if_neg hshut]
        rfl

/-- A text that opens nothing moves the blocks after it by its length. -/
theorem isBlockAt_append_iff {front : Text} (h : '{' ∉ front) (s : Text) (i : Nat) (body : Text) :
    IsBlockAt (front ++ s) i body ↔ ∃ i', i = front.length + i' ∧ IsBlockAt s i' body := by
  induction front generalizing i with
  | nil => simp
  | cons c front ih =>
    rw [List.mem_cons, not_or] at h
    rw [List.cons_append]
    cases i with
    | zero =>
      refine iff_of_false (fun hblock => ?_) ?_
      · exact h.1 ((isBlockAt_zero_iff c _ body).mp hblock).1.symm
      · rintro ⟨i', hi', -⟩
        rw [List.length_cons] at hi'
        omega
    | succ i =>
      have hplace (i' : Nat) : i = front.length + i' ↔ i + 1 = (c :: front).length + i' := by
        rw [List.length_cons]
        omega
      simp only [isBlockAt_succ_iff, ih h.2, hplace]

/-- A block that the scan finds moves the blocks after it by its length. -/
theorem isBlockAt_succ_iff_tail {rest : Text} (h : (fromBrace rest).head? = some '}') (i : Nat)
    (body : Text) : IsBlockAt ('{' :: rest) (i + 1) body ↔
      ∃ i', i + 1 = (source (.block (interior rest))).length + i' ∧
        IsBlockAt (fromBrace rest).tail i' body := by
  have hopen := open_not_mem_interior_append rest
  have hmove := isBlockAt_append_iff hopen (fromBrace rest).tail i body
  rw [List.append_assoc, List.singleton_append, ← eq_interior_append h] at hmove
  have hplace (i' : Nat) : i = (interior rest ++ ['}']).length + i' ↔
      i + 1 = (source (.block (interior rest))).length + i' := by
    rw [length_source_block, List.length_append, List.length_singleton]
    omega
  simp only [isBlockAt_succ_iff, hmove, hplace]

/-- What the scan for blocks finds are the blocks of the text. -/
theorem mem_located_blocks_iff {s : Text} (hnested : ∀ j, ¬IsNested s j) (start : Nat)
    (o : Located) : o ∈ located start (blocks s) ↔
      ∃ i body, o = ⟨start + i, .block body⟩ ∧ IsBlockAt s i body := by
  unfold blocks
  fun_induction scan ⟨true, false⟩ s generalizing start with
  | case1 => simp [located, not_isBlockAt_nil]
  | case2 c rest hc _ => exact absurd hc.2 (by decide)
  | case3 c rest _ hc ih =>
    obtain ⟨rfl, -, hclose⟩ := hc
    rw [← Nat.or_exists_add_one, located, List.mem_cons,
      ih (not_isNested_tail_of_head? hnested hclose)]
    apply or_congr
    · simp [isBlockAt_zero_iff_eq_interior hnested hclose]
    · simp only [isBlockAt_succ_iff_tail hclose]
      constructor
      · rintro ⟨i, body, rfl, hbody⟩
        have hplace : (source (.block (interior rest))).length + i =
            (interior rest).length + 1 + i + 1 := by
          rw [length_source_block]
          omega
        exact ⟨_, body, by rw [← hplace, Nat.add_assoc], i, hplace.symm, hbody⟩
      · rintro ⟨i, body, rfl, i', hi', hbody⟩
        exact ⟨i', body, by rw [hi', Nat.add_assoc], hbody⟩
  | case4 c rest _ hc ih =>
    have hfirst (body : Text) : ¬IsBlockAt (c :: rest) 0 body := by
      intro hbody
      have hopen := ((isBlockAt_zero_iff c rest body).mp hbody).1
      subst hopen
      exact not_isBlockAt_zero_of_head?_ne hnested (fun hhead => hc ⟨rfl, rfl, hhead⟩) body hbody
    rw [← Nat.or_exists_add_one, located, ih (not_isNested_of_append [c] hnested)]
    simp only [hfirst, and_false, exists_false, false_or, isBlockAt_succ_iff, Nat.add_assoc,
      Nat.add_comm 1]

/-! ### The scans together -/

/-- A pair of braces in a text: an opening one and the next closing one. -/
def IsPair (s : Text) (i j : Nat) : Prop :=
  ∃ body, IsBlockAt s i body ∧ j = i + body.length + 1

/-- How the scans of a text and the search for nested blocks go together. -/
structure ScansAgree (s : Text) : Prop where
  /-- The blocks do not depend on whether slots are looked for as well. -/
  blocks : found ⟨true, false⟩ s = (found ⟨true, true⟩ s).filter Located.isBlock
  /-- The slots of the text are those outside of blocks and those of the interiors, in order. -/
  slots : found ⟨false, true⟩ s = (found ⟨true, true⟩ s).flatMap Located.slots
  /-- The search is the one that keeps the places where it opens and closes a block. -/
  search : Brace.nested? (s.map Brace.ofChar?) =
    Brace.failure? (Brace.pairsFrom none 0 (s.map Brace.ofChar?))
  /-- If the search finds nothing nested, it opens and closes a block where the scan sees one, which
  is at every opening brace with a closing one after it and at the first of these. -/
  pairs : checkNesting (s.map Brace.ofChar?) = .ok () →
    ∃ pairs, Brace.pairsFrom none 0 (s.map Brace.ofChar?) = .ok pairs ∧
      ((found ⟨true, false⟩ s).map fun o => (o.start, o.stop)) =
        (pairs.map fun pair => (pair.1, pair.2 + 1)) ∧
      ∀ i j, (i, j) ∈ pairs ↔ IsPair s i j

theorem not_isNested_of_checkNesting_eq_ok {s : Text}
    (h : checkNesting (s.map Brace.ofChar?) = .ok ()) : ∀ j, ¬IsNested s j := by
  rw [← nested?_eq_none_iff]
  cases hnested : Brace.nested? (s.map Brace.ofChar?) with
  | none => rfl
  | some j =>
    rw [checkNesting, hnested] at h
    cases h

theorem scans_agree (s : Text) : ScansAgree s where
  blocks := located_blocks 0 s
  slots := located_slots 0 s
  search := Brace.nestedFrom?_isSome none 0 _
  pairs := by
    intro hpasses
    have hnested := not_isNested_of_checkNesting_eq_ok hpasses
    have hmem := mem_located_blocks_iff hnested 0
    simp only [Nat.zero_add] at hmem
    refine ⟨_, pairsFrom_eq_ok hnested 0, ?_, fun i j => ?_⟩
    · rw [List.map_map]
      apply List.map_congr_left
      intro o ho
      obtain ⟨i, body, rfl, -⟩ := (hmem o).mp ho
      simp only [Function.comp_apply, Located.stop_block, Nat.add_sub_cancel]
    · rw [List.mem_map]
      constructor
      · intro h
        obtain ⟨o, ho, hplace⟩ := h
        obtain ⟨i', body, rfl, hbody⟩ := (hmem o).mp ho
        rw [Located.stop_block, Nat.add_sub_cancel, Prod.mk.injEq] at hplace
        obtain ⟨rfl, rfl⟩ := hplace
        exact ⟨body, hbody, rfl⟩
      · intro h
        obtain ⟨body, hbody, rfl⟩ := h
        refine ⟨_, (hmem _).mpr ⟨i, body, rfl, hbody⟩, ?_⟩
        rw [Located.stop_block, Nat.add_sub_cancel]

/-- A brace that closes nothing, a block with a run that is no tag, a block without slots, a slot
right after it, and a brace that is left open. -/
def strayBraces : Text := "\x7da{b?dd}{}?#\x7b".toList

theorem scans_agree_stray_braces :
    checkNesting (strayBraces.map Brace.ofChar?) = .ok () ∧
      found ⟨true, false⟩ strayBraces = [⟨2, .block "b?dd".toList⟩, ⟨8, .block []⟩] ∧
      found ⟨false, true⟩ strayBraces = [⟨4, .slot ['d', 'd']⟩, ⟨10, .slot ['#']⟩] ∧
      Brace.pairsFrom none 0 (strayBraces.map Brace.ofChar?) = .ok [(2, 7), (8, 9)] ∧
      IsPair strayBraces 2 7 := by
  have hpasses : checkNesting (strayBraces.map Brace.ofChar?) = .ok () := by decide
  have hpairs : Brace.pairsFrom none 0 (strayBraces.map Brace.ofChar?) =
      .ok [(2, 7), (8, 9)] := by decide
  have hagree := scans_agree strayBraces
  obtain ⟨pairs, hsearch, -, hmem⟩ := hagree.pairs hpasses
  obtain rfl := Except.ok.inj (hpairs.symm.trans hsearch)
  refine ⟨hpasses, ?_, ?_, hpairs, (hmem 2 7).mp (by decide)⟩
  · rw [hagree.blocks]
    decide +kernel
  · rw [hagree.slots]
    decide +kernel

end Template

end QueryTemplate
