import QueryTemplate.Proofs.Template.Refusal
import QueryTemplate.Proofs.Template.Spread

/-! A template is filled by evaluating its pieces from left to right. The cursor that runs through
the arguments is the number of question marks passed, so the k-th question mark takes the k-th
argument, whether it stands in a block or not. -/

namespace QueryTemplate.Template

open Segment Failure

/-! ### The cursor -/

/-- How many arguments a segment takes. -/
def slotsIn : Segment → Nat
  | .char _ => 0
  | .slot _ => 1
  | .block body => body.count '?'

theorem sum_slotsIn_scan (blocks : Bool) (s : Text) :
    ((scan ⟨blocks, true⟩ s).map slotsIn).sum = s.count '?' := by
  fun_induction scan ⟨blocks, true⟩ s with
  | case1 => rfl
  | case2 c rest hc ih =>
    obtain ⟨rfl, -⟩ := hc
    rw [List.map_cons, List.sum_cons, ih, List.count_cons_self, count_dropWhile_isTagChar, slotsIn,
      Nat.add_comm]
  | case3 c rest _ hc ih =>
    obtain ⟨rfl, -, hclose⟩ := hc
    have hcount : ('{' :: rest).count '?' =
        (interior rest).count '?' + ((fromBrace rest).tail).count '?' := by
      conv_lhs => rw [eq_interior_append hclose]
      simp
    rw [List.map_cons, List.sum_cons, ih, hcount, slotsIn]
  | case4 c rest hc _ ih =>
    have hmark : c ≠ '?' := fun hmark => hc ⟨hmark, rfl⟩
    rw [List.map_cons, List.sum_cons, ih, List.count_cons_of_ne hmark, slotsIn, Nat.zero_add]

theorem ofList_natCast (args : List Value) (n : Nat) : Arguments.ofList args n =
    match args[n]? with
    | some v => .ok v
    | none => .error (Arguments.noItem "list" n) := by
  have hn : ¬(n : Int) < 0 := by omega
  rw [Arguments.ofList, Arguments.itemAt]
  simp only [if_neg hn, Int.toNat_natCast]
  cases args[n]? <;> rfl

theorem fillSlot_ofList (args : List Value) (run : Text) (n : Nat) :
    fillSlot (.ofList args) run n = slotText args n run := by
  rw [fillSlot, slotText, ofList_natCast]
  cases Tag.ofRun? run with
  | none => rfl
  | some tag => cases args[n]? <;> rfl

/-- Filling segments is evaluating their pieces, if it is so for the blocks among them. -/
theorem fillSegments_eq_joined (args : List Value)
    (onBlock : Text → Int → Except Failure (Text × Int))
    (onBlockPieces : Nat → Text → List Piece) (segments : List Segment) (n : Nat)
    (hblock : ∀ body, .block body ∈ segments → ∀ k : Nat, k + body.count '?' ≤ args.length →
      onBlock body k = (joined args (onBlockPieces k body)).map
        fun t => (t, ((k + body.count '?' : Nat) : Int)))
    (hn : n + (segments.map slotsIn).sum ≤ args.length) :
    fillSegments (.ofList args) onBlock segments n =
      (joined args (segmentPieces onBlockPieces n segments)).map
        fun t => (t, ((n + (segments.map slotsIn).sum : Nat) : Int)) := by
  induction segments generalizing n with
  | nil => rfl
  | cons segment rest ih =>
    rw [List.map_cons, List.sum_cons] at hn ⊢
    have hrest : ∀ body, .block body ∈ rest → _ := fun body hbody =>
      hblock body (List.mem_cons_of_mem segment hbody)
    cases segment with
    | char c =>
      have htail := ih n hrest (by simpa [slotsIn] using hn)
      rw [fillSegments, htail, segmentPieces, joined_cons, slotsIn, Nat.zero_add]
      cases joined args (segmentPieces onBlockPieces n rest) <;> rfl
    | slot run =>
      rw [slotsIn] at hn ⊢
      have htail := ih (n + 1) hrest (by omega)
      rw [← Nat.add_assoc n 1, fillSegments, fillSlot_ofList, segmentPieces, List.cons_append,
        joined_cons, joined_append, joined_map_nothing, Piece.text]
      cases slotText args n run with
      | error e => rfl
      | ok head =>
        rw [ok_bind, show (n : Int) + 1 = ((n + 1 : Nat) : Int) by push_cast; rfl, htail]
        cases joined args (segmentPieces onBlockPieces (n + 1) rest) <;> rfl
    | block body =>
      rw [slotsIn] at hn ⊢
      have htail := ih (n + body.count '?') hrest (by omega)
      rw [← Nat.add_assoc n (body.count '?'), fillSegments,
        hblock body List.mem_cons_self n (by omega), segmentPieces, joined_append]
      cases joined args (onBlockPieces n body) with
      | error e => rfl
      | ok head =>
        show (fillSegments (.ofList args) onBlock rest ((n + body.count '?' : Nat) : Int) >>= _) = _
        rw [htail]
        cases joined args (segmentPieces onBlockPieces (n + body.count '?') rest) <;> rfl

/-! ### Blocks -/

theorem block_not_mem_slots (s body : Text) : .block body ∉ slots s := by
  unfold slots
  fun_induction scan ⟨false, true⟩ s with
  | case1 => exact List.not_mem_nil
  | case2 c rest _ ih => simpa using ih
  | case3 c rest _ hc _ => exact absurd hc.2.1 (by decide)
  | case4 c rest _ _ ih => simpa using ih

theorem not_isBrace_of_block_mem_scan {marks : Marks} {s body : Text}
    (h : .block body ∈ scan marks s) : ∀ c ∈ body, isBrace c = false := by
  fun_induction scan marks s with
  | case1 => cases h
  | case2 c rest _ ih => exact ih (by simpa using h)
  | case3 c rest _ _ ih =>
    rcases List.mem_cons.mp h with h | h
    · cases h
      exact fun c => not_isBrace_of_mem_interior
    · exact ih h
  | case4 c rest _ _ ih => exact ih (by simpa using h)

/-- A block of the scan is a block of the text. -/
theorem isBlockAt_of_mem_scan {marks : Marks} {s body : Text} (h : .block body ∈ scan marks s) :
    ∃ i, IsBlockAt s i body := by
  obtain ⟨front, back, hsplit⟩ := List.append_of_mem h
  have hsource := flatMap_source_scan marks s
  rw [hsplit, List.flatMap_append, List.flatMap_cons, source] at hsource
  refine ⟨_, front.flatMap source, back.flatMap source, by simp [← hsource], ?_, rfl⟩
  intro hclose
  exact absurd (not_isBrace_of_block_mem_scan h '}' hclose) (by decide)

theorem isSkip_iff_skipsOf {args : List Value} {n : Nat} {v : Value} (h : args[n]? = some v) :
    v.isSkip = skipsOf args n := by
  rw [skipsOf, h]
  rfl

theorem skipsOf_eq_true_iff (args : List Value) (number : Nat) :
    skipsOf args number = true ↔ args[number]? = some .skip := by
  rw [skipsOf, Option.any_eq_true]
  constructor
  · rintro ⟨v, hv, hskip⟩
    cases v with
    | skip => exact hv
    | _ => cases hskip
  · exact fun h => ⟨.skip, h, rfl⟩

/-- A block with one slot at most is what its pieces give. -/
theorem fillBlock_eq_joined {args : List Value} {body : Text} {k : Nat}
    (hone : body.count '?' ≤ 1) (hk : k + body.count '?' ≤ args.length) :
    fillBlock (.ofList args) body k = (joined args (blockPieces (skipsOf args) k body)).map
      fun t => (t, ((k + body.count '?' : Nat) : Int)) := by
  rw [fillBlock, slotCount_eq_count, blockPieces]
  by_cases hmark : '?' ∈ body
  · have hcount : body.count '?' = 1 := le_antisymm hone (List.one_le_count_iff.mpr hmark)
    have hlt : k < args.length := by omega
    have hv : args[k]? = some args[k] := List.getElem?_eq_getElem hlt
    rw [if_neg (by omega), if_pos hmark, ofList_natCast, hv]
    show (if args[k].isSkip = true then _ else _) = _
    rw [isSkip_iff_skipsOf hv]
    split_ifs
    · rw [joined_map_nothing, hcount]
      rfl
    · have hslots := sum_slotsIn_scan false body
      have hfill := fillSegments_eq_joined args copyBlock (fun _ _ => []) (slots body) k
        (fun b hb => absurd hb (block_not_mem_slots body b)) (by rw [slots, hslots]; exact hk)
      rw [slots, hslots] at hfill
      rw [slots, hfill, List.cons_append, joined_cons, joined_append]
      cases joined args (segmentPieces (fun _ _ => []) k (scan ⟨false, true⟩ body)) with
      | error e => rfl
      | ok t => simp [Piece.text, Except.bind, Except.map, joined_cons]
  · have hcount : body.count '?' = 0 := List.count_eq_zero.mpr hmark
    rw [if_pos hcount, if_neg hmark, joined_map_kept, hcount]
    rfl

/-! ### The whole template -/

theorem accepted_of_validate_eq_ok {s : Text} {args : List Value}
    (h : validate s args.length = .ok ()) :
    (∀ i body, ¬IsCrowdedAt s i body) ∧ s.count '?' = args.length := by
  have hverdict := verdict_validate s args.length
  rw [h] at hverdict
  cases hverdict with
  | accepted _ hcrowded hcount => exact ⟨hcrowded, hcount⟩

theorem validate_of_compile_eq_ok {s : Text} {args : List Value} {sql : Text}
    (h : compile s args = .ok sql) : validate s args.length = .ok () := by
  obtain ⟨_, hvalid, -⟩ := bind_eq_ok_iff.mp h
  exact hvalid

/-- A template that is accepted is filled by evaluating its pieces. -/
theorem compile_eq_joined {s : Text} {args : List Value} (h : validate s args.length = .ok ()) :
    compile s args = joined args (pieces true (skipsOf args) s) := by
  obtain ⟨hcrowded, hcount⟩ := accepted_of_validate_eq_ok h
  have hsum := sum_slotsIn_scan true s
  have hfill := fillSegments_eq_joined args (fillBlock (.ofList args)) (blockPieces (skipsOf args))
    (scan ⟨true, true⟩ s) 0 ?_ (by rw [hsum]; omega)
  · rw [compile, h, ok_bind, substitute, pieces_eq_segmentPieces]
    rw [Nat.cast_zero] at hfill
    rw [hfill]
    cases joined args (segmentPieces (blockPieces (skipsOf args)) 0 (scan ⟨true, true⟩ s)) <;> rfl
  · intro body hbody k hk
    obtain ⟨i, hi⟩ := isBlockAt_of_mem_scan hbody
    apply fillBlock_eq_joined _ hk
    by_contra hmany
    exact hcrowded i body ⟨hi, by omega⟩

end QueryTemplate.Template
