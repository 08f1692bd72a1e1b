import QueryTemplate.Proofs.Template.Seam

/-! Conditional blocks with one slot. A block whose argument is the skip marker leaves no more
behind than if block and argument had never been there; any other argument makes it as good as its
interior without the braces. Neither depends on what stands around the block. -/

namespace QueryTemplate.Template

open Segment Failure

/-! ### A block on its own -/

theorem isWellFormed_of_count_le_one {s : Text} (hopen : s.count '{' ≤ 1)
    (hmark : s.count '?' ≤ 1) : IsWellFormed s := by
  constructor
  · rintro j ⟨front, between, back, rfl, -⟩
    simp only [List.count_append, List.count_cons_self] at hopen
    omega
  · rintro i body ⟨⟨front, back, rfl, -⟩, hmany⟩
    simp only [List.count_append, List.count_cons_of_ne (show '{' ≠ '?' by decide)] at hmark
    omega

theorem segmentPieces_eq_of_block_not_mem (onBlock onBlock' : Nat → Text → List Piece)
    {segments : List Segment} (h : ∀ body, .block body ∉ segments) (n : Nat) :
    segmentPieces onBlock n segments = segmentPieces onBlock' n segments := by
  induction segments generalizing n with
  | nil => rfl
  | cons segment rest ih =>
    have htail := ih fun body hbody => h body (List.mem_cons_of_mem segment hbody)
    cases segment with
    | char c => rw [segmentPieces, segmentPieces, htail]
    | slot run => rw [segmentPieces, segmentPieces, htail]
    | block body => exact absurd List.mem_cons_self (h body)

section Body

variable {body : Text} (hbody : ∀ c ∈ body, isBrace c = false) (hone : body.count '?' = 1)

include hbody

theorem open_not_mem_of_not_isBrace : '{' ∉ body :=
  fun hmem => absurd (hbody '{' hmem) (by decide)

theorem scan_block : scan ⟨true, true⟩ (source (.block body)) = [.block body] := by
  rw [source, List.cons_append, scan, if_neg (by decide), fromBrace_append hbody, fromBrace_close,
    if_pos ⟨rfl, rfl, rfl⟩, interior_append_close hbody, List.tail_cons, scan]

/-- Without braces it does not matter whether they are looked for. -/
theorem scan_eq_slots : scan ⟨true, true⟩ body = slots body := by
  unfold slots
  fun_induction scan ⟨true, true⟩ body with
  | case1 => rw [scan]
  | case2 c rest hc ih =>
    have hrest := ih fun d hd =>
      hbody d (List.mem_cons_of_mem c ((List.dropWhile_sublist _).subset hd))
    rw [scan, if_pos ⟨hc.1, rfl⟩, hrest]
  | case3 c rest _ hc => exact absurd (hbody c List.mem_cons_self) (by rw [hc.1]; decide)
  | case4 c rest hmark _ ih =>
    have hmark : ¬(c = '?' ∧ True) := fun hc => hmark ⟨hc.1, rfl⟩
    rw [scan, if_neg (by simpa using hmark), if_neg (by simp),
      ih fun d hd => hbody d (List.mem_cons_of_mem c hd)]

include hone

theorem isWellFormed_block : IsWellFormed (source (.block body)) := by
  have hopen := List.count_eq_zero.mpr (open_not_mem_of_not_isBrace hbody)
  apply isWellFormed_of_count_le_one <;> simp [source, hopen, hone]

theorem isWellFormed_body : IsWellFormed body := by
  have hopen := List.count_eq_zero.mpr (open_not_mem_of_not_isBrace hbody)
  exact isWellFormed_of_count_le_one (by omega) (by omega)

theorem compile_block_eq_ok_iff (v : Value) {sql : Text} :
    compile (source (.block body)) [v] = .ok sql ↔
      joined [v] (blockPieces (skipsOf [v]) 0 body) = .ok sql := by
  have hmarks : (source (.block body)).count '?' = [v].length := by simp [source, hone]
  rw [compile_eq_ok_iff, scan_block hbody, filled, segmentPieces, segmentPieces, List.append_nil]
  exact ⟨fun h => h.2.2, fun h => ⟨isWellFormed_block hbody hone, hmarks, h⟩⟩

/-- A block whose argument is the skip marker gives nothing. -/
theorem compile_block_skip {sql : Text} :
    compile (source (.block body)) [.skip] = .ok sql ↔ sql = [] := by
  have hmark : '?' ∈ body := List.count_pos_iff.mp (by omega)
  rw [compile_block_eq_ok_iff hbody hone, blockPieces, if_pos hmark, if_pos (by rfl),
    joined_map_nothing, Except.ok.injEq, eq_comm]

/-- A block with any other argument gives what its interior gives. -/
theorem compile_block_of_ne_skip {v : Value} (hv : v ≠ .skip) {sql : Text} :
    compile (source (.block body)) [v] = .ok sql ↔ compile body [v] = .ok sql := by
  have hmark : '?' ∈ body := List.count_pos_iff.mp (by omega)
  have hskip : ¬skipsOf [v] 0 = true := by
    rw [skipsOf_eq_true_iff]
    simpa using hv
  have hinterior : joined [v] (blockPieces (skipsOf [v]) 0 body) = filled [v] 0 (slots body) := by
    rw [filled, segmentPieces_eq_of_block_not_mem _ (fun _ _ => []) (block_not_mem_slots body),
      blockPieces, if_pos hmark, if_neg hskip, List.cons_append, joined_cons, joined_append]
    cases joined [v] (segmentPieces (fun _ _ => []) 0 (slots body)) with
    | error e => rfl
    | ok t => simp [Piece.text, Except.bind, Except.map, joined_cons]
  rw [compile_block_eq_ok_iff hbody hone, compile_eq_ok_iff, scan_eq_slots hbody, hinterior]
  exact ⟨fun h => ⟨isWellFormed_body hbody hone, hone, h⟩, fun h => h.2.2⟩

end Body

/-! ### A block among other text -/

theorem not_fuses_block_right (s body : Text) : ¬Fuses s (source (.block body)) := by
  rintro ⟨-, htag⟩
  cases htag

theorem not_fuses_block_left (body s : Text) : ¬Fuses (source (.block body)) s := by
  rintro ⟨hends, -⟩
  rw [source, endsInSlot_brace ('{' :: body) rfl] at hends
  cases hends

/-- A part with one slot takes the argument after those of the part before it. -/
theorem compile_around_eq_ok_iff {pre mid post : Text} {front back : List Value}
    (hpre : IsClosed pre) (hmid : IsClosed mid) (hone : mid.count '?' = 1)
    (hfront : front.length = pre.count '?') (hbefore : ¬Fuses pre mid) (hafter : ¬Fuses mid post)
    (v : Value) {sql : Text} :
    compile (pre ++ mid ++ post) (front ++ v :: back) = .ok sql ↔
      ∃ x y z, compile pre front = .ok x ∧ compile mid [v] = .ok y ∧ compile post back = .ok z ∧
        sql = x ++ (y ++ z) := by
  have hne : mid ≠ [] := by
    rintro rfl
    cases hone
  have hseam : ¬Fuses pre (mid ++ post) := by
    rwa [Fuses, List.head?_append_of_ne_nil mid hne]
  have hlength : [v].length = mid.count '?' := hone.symm
  rw [List.append_assoc, compile_append_eq_ok_iff hpre hseam hfront, ← List.singleton_append]
  simp only [compile_append_eq_ok_iff hmid hafter hlength]
  constructor
  · rintro ⟨x, _, hx, ⟨y, z, hy, hz, rfl⟩, rfl⟩
    exact ⟨x, y, z, hx, hy, hz, rfl⟩
  · rintro ⟨x, y, z, hx, hy, hz, rfl⟩
    exact ⟨x, _, hx, ⟨y, z, hy, hz, rfl⟩, rfl⟩

/-- A block with one slot is erased together with its argument if that is the skip marker, and
inlined if it is any other value. What stands around it is filled as it is without the block. -/
theorem erased_or_inlined (pre body post : Text) (front back : List Value) (hpre : IsClosed pre)
    (hbody : ∀ c ∈ body, isBrace c = false) (hone : body.count '?' = 1)
    (hfront : front.length = pre.count '?') :
    (¬Fuses pre post → ∀ sql,
      compile (pre ++ '{' :: body ++ '}' :: post) (front ++ .skip :: back) = .ok sql ↔
        compile (pre ++ post) (front ++ back) = .ok sql) ∧
    (¬Fuses pre body → ¬Fuses body post → ∀ v : Value, v ≠ .skip → ∀ sql,
      compile (pre ++ '{' :: body ++ '}' :: post) (front ++ v :: back) = .ok sql ↔
        compile (pre ++ body ++ post) (front ++ v :: back) = .ok sql) := by
  have hsource : pre ++ '{' :: body ++ '}' :: post = pre ++ source (.block body) ++ post := by
    simp [source]
  have hblock (v : Value) (sql : Text) :
      compile (pre ++ source (.block body) ++ post) (front ++ v :: back) = .ok sql ↔
        ∃ x y z, compile pre front = .ok x ∧ compile (source (.block body)) [v] = .ok y ∧
          compile post back = .ok z ∧ sql = x ++ (y ++ z) :=
    compile_around_eq_ok_iff hpre (isClosed_block hbody) (by simp [source, hone]) hfront
      (not_fuses_block_right pre body) (not_fuses_block_left body post) v
  rw [hsource]
  constructor
  · intro hseam sql
    rw [hblock, compile_append_eq_ok_iff hpre hseam hfront]
    simp only [compile_block_skip hbody hone]
    constructor
    · rintro ⟨x, _, z, hx, rfl, hz, rfl⟩
      exact ⟨x, z, hx, hz, rfl⟩
    · rintro ⟨x, z, hx, hz, rfl⟩
      exact ⟨x, [], z, hx, rfl, hz, rfl⟩
  · intro hbefore hafter v hv sql
    have hclosed := isClosed_of_not_mem (open_not_mem_of_not_isBrace hbody)
    rw [hblock, compile_around_eq_ok_iff hpre hclosed hone hfront hbefore hafter]
    simp only [compile_block_of_ne_skip hbody hone hv]

theorem erased_or_inlined_limit :
    compile "? {x} {AND a = ?d} LIMIT ?d".toList [.null, .skip, .int 3] =
        .ok "NULL {x}  LIMIT 3".toList ∧
      compile "? {x} {AND a = ?d} LIMIT ?d".toList [.null, .int 2, .int 3] =
        .ok "NULL {x} AND a = 2 LIMIT 3".toList := by
  have hblock : ∀ c ∈ ['x'], isBrace c = false := by simp [isBrace]
  have hpre : IsClosed "? {x} ".toList :=
    ((isClosed_of_not_mem (s := "? ".toList) (by decide)).append
      (isClosed_block hblock)).append (isClosed_of_not_mem (by decide))
  obtain ⟨herased, hinlined⟩ := erased_or_inlined "? {x} ".toList "AND a = ?d".toList
    " LIMIT ?d".toList [.null] [.int 3] hpre (by simp [isBrace]) (by decide) (by decide)
  exact ⟨(herased (fun h => absurd h.2 (by decide)) _).mpr (by decide +kernel),
    (hinlined (fun h => absurd h.2 (by decide)) (fun h => absurd h.2 (by decide)) (.int 2)
      (by simp) _).mpr (by decide +kernel)⟩

/-! ### The blocks of an accepted template -/

section Accepted

variable {front body back : Text} (hclose : '}' ∉ body)
  (hwell : IsWellFormed (front ++ '{' :: body ++ '}' :: back))

include hwell

theorem isClosed_of_isWellFormed : IsClosed front := by
  rintro before after rfl
  by_contra hopen
  apply hwell.1 (before ++ '{' :: after).length
  exact ⟨before, after, body ++ '}' :: back, by simp, hopen, rfl⟩

include hclose

theorem not_isBrace_of_isWellFormed : ∀ c ∈ body, isBrace c = false := by
  intro c hc
  have hopen : '{' ∉ body := by
    intro hmem
    obtain ⟨between, rest, rfl⟩ := List.append_of_mem hmem
    apply hwell.1 (front ++ '{' :: between).length
    refine ⟨front, between, rest ++ '}' :: back, by simp, ?_, rfl⟩
    exact fun h => hclose (List.mem_append_left _ h)
  simp only [isBrace, Bool.or_eq_false_iff, decide_eq_false_iff_not]
  exact ⟨fun h => hopen (h ▸ hc), fun h => hclose (h ▸ hc)⟩

theorem count_mark_eq_one_of_isWellFormed (hmark : '?' ∈ body) : body.count '?' = 1 := by
  have hpos := List.count_pos_iff.mpr hmark
  have hcrowded := hwell.2 front.length body
  rw [IsCrowdedAt, not_and, not_lt] at hcrowded
  have hle := hcrowded ⟨front, back, rfl, hclose, rfl⟩
  omega

end Accepted

/-- The output of a template around one of its blocks. The block takes the argument after those of
the text before it; it gives nothing if that is the skip marker, and what its interior gives
otherwise. -/
theorem exists_of_compile_block_eq_ok {front body back : Text} {args : List Value} {sql : Text}
    (hclose : '}' ∉ body) (hmark : '?' ∈ body)
    (h : compile (front ++ '{' :: body ++ '}' :: back) args = .ok sql) :
    ∃ v x z, args[front.count '?']? = some v ∧
      compile front (args.take (front.count '?')) = .ok x ∧
      compile back (args.drop (front.count '?' + 1)) = .ok z ∧
      (v = .skip → sql = x ++ z) ∧
      (v ≠ .skip → ∃ t, compile body [v] = .ok t ∧ sql = x ++ (t ++ z)) := by
  obtain ⟨hwell, hcount, -⟩ := compile_eq_ok_iff.mp h
  have hbody := not_isBrace_of_isWellFormed hclose hwell
  have hone := count_mark_eq_one_of_isWellFormed hclose hwell hmark
  have hlt : front.count '?' < args.length := by
    simp only [List.count_append, List.count_cons] at hcount
    omega
  have hsource : front ++ '{' :: body ++ '}' :: back =
      front ++ source (.block body) ++ back := by
    simp [source]
  have hargs : args = args.take (front.count '?') ++
      args[front.count '?'] :: args.drop (front.count '?' + 1) := by
    rw [← List.drop_eq_getElem_cons, List.take_append_drop]
  have hlength : (args.take (front.count '?')).length = front.count '?' :=
    List.length_take_of_le hlt.le
  rw [hsource, hargs, compile_around_eq_ok_iff (isClosed_of_isWellFormed hwell)
    (isClosed_block hbody) (by simp [source, hone]) hlength (not_fuses_block_right front body)
    (not_fuses_block_left body back)] at h
  obtain ⟨x, y, z, hx, hy, hz, rfl⟩ := h
  refine ⟨args[front.count '?'], x, z, List.getElem?_eq_getElem hlt, hx, hz, ?_, ?_⟩
  · intro hskip
    rw [hskip, compile_block_skip hbody hone] at hy
    rw [hy, List.nil_append]
  · intro hskip
    exact ⟨y, (compile_block_of_ne_skip hbody hone hskip).mp hy, rfl⟩

end QueryTemplate.Template
