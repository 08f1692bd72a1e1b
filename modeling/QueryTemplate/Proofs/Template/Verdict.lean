import QueryTemplate.Proofs.Template.Brace

/-! What the check of a template comes to. The scan for slots finds every question mark, and on a
template without nested braces the scan for blocks finds every opening brace that is closed later,
so the outcome is decided by the braces and the question marks alone. -/

namespace QueryTemplate.Segment

/-- No question mark belongs to a run. -/
theorem count_dropWhile_isTagChar (s : Text) :
    (s.dropWhile Tag.isTagChar).count '?' = s.count '?' := by
  have hrun : (s.takeWhile Tag.isTagChar).count '?' = 0 := by
    rw [List.count_eq_zero]
    intro hmem
    exact absurd (List.mem_takeWhile_imp hmem) (by decide)
  conv_rhs => rw [← List.takeWhile_append_dropWhile (p := Tag.isTagChar) (l := s)]
  rw [List.count_append, hrun, Nat.zero_add]

/-- The scan for slots finds every question mark, however long the run after it is. -/
theorem slotCount_eq_count (s : Text) : slotCount s = s.count '?' := by
  unfold slotCount slots
  fun_induction scan ⟨false, true⟩ s with
  | case1 => rfl
  | case2 c rest h ih =>
    rw [List.countP_cons, ih, h.1, List.count_cons_self, count_dropWhile_isTagChar]
    rfl
  | case3 c rest _ h ih => exact absurd h.2.1 (by decide)
  | case4 c rest h _ ih =>
    have hc : c ≠ '?' := fun hc => h ⟨hc, rfl⟩
    rw [List.countP_cons, ih, List.count_cons_of_ne hc]
    rfl

end QueryTemplate.Segment

namespace QueryTemplate.Template

open Segment

/-! ### Blocks without a scan -/

theorem isBlockAt_zero_iff (c : Char) (s body : Text) :
    IsBlockAt (c :: s) 0 body ↔ c = '{' ∧ '}' ∉ body ∧ ∃ back, s = body ++ '}' :: back := by
  constructor
  · rintro ⟨front, back, h, hmem, hlen⟩
    rw [List.length_eq_zero_iff.mp hlen.symm] at h
    obtain ⟨hc, hs⟩ := List.cons.inj h
    exact ⟨hc, hmem, back, hs⟩
  · rintro ⟨rfl, hmem, back, rfl⟩
    exact ⟨[], back, rfl, hmem, rfl⟩

theorem isBlockAt_succ_iff (c : Char) (s : Text) (i : Nat) (body : Text) :
    IsBlockAt (c :: s) (i + 1) body ↔ IsBlockAt s i body := by
  constructor
  · rintro ⟨front, back, h, hmem, hlen⟩
    cases front with
    | nil => simp at hlen
    | cons d front =>
      obtain ⟨rfl, rfl⟩ := List.cons.inj h
      exact ⟨front, back, rfl, hmem, Nat.succ.inj hlen⟩
  · rintro ⟨front, back, rfl, hmem, rfl⟩
    exact ⟨c :: front, back, rfl, hmem, rfl⟩

theorem not_isBlockAt_nil (i : Nat) (body : Text) : ¬IsBlockAt [] i body := by
  rintro ⟨front, back, h, -⟩
  simp at h

/-- The leftmost block with two question marks or more. -/
def IsFirstCrowded (s : Text) (i : Nat) (body : Text) : Prop :=
  IsCrowdedAt s i body ∧ ∀ i' < i, ∀ body', ¬IsCrowdedAt s i' body'

/-- A character that opens no crowded block moves the leftmost one by one place. -/
theorem isFirstCrowded_cons_iff {c : Char} {s : Text} (h : ∀ body, ¬IsCrowdedAt (c :: s) 0 body)
    (i : Nat) (body : Text) :
    IsFirstCrowded (c :: s) i body ↔ ∃ i', i = i' + 1 ∧ IsFirstCrowded s i' body := by
  constructor
  · rintro ⟨hi, hmin⟩
    cases i with
    | zero => exact absurd hi (h body)
    | succ i =>
      refine ⟨i, rfl, ⟨(isBlockAt_succ_iff c s i body).mp hi.1, hi.2⟩, ?_⟩
      intro i' hi' body' hbody'
      exact hmin (i' + 1) (Nat.succ_lt_succ hi') body'
        ⟨(isBlockAt_succ_iff c s i' body').mpr hbody'.1, hbody'.2⟩
  · rintro ⟨i, rfl, hi, hmin⟩
    refine ⟨⟨(isBlockAt_succ_iff c s i body).mpr hi.1, hi.2⟩, fun i' hi' body' hbody' => ?_⟩
    cases i' with
    | zero => exact h body' hbody'
    | succ i' =>
      exact hmin i' (Nat.lt_of_succ_lt_succ hi') body'
        ⟨(isBlockAt_succ_iff c s i' body').mp hbody'.1, hbody'.2⟩

/-- A text that opens nothing moves the leftmost crowded block by its length. -/
theorem isFirstCrowded_append_iff {front : Text} (h : '{' ∉ front) (s : Text) (i : Nat)
    (body : Text) :
    IsFirstCrowded (front ++ s) i body ↔
      ∃ i', i = i' + front.length ∧ IsFirstCrowded s i' body := by
  induction front generalizing i with
  | nil => simp
  | cons c front ih =>
    rw [List.mem_cons, not_or] at h
    have hno : ∀ body', ¬IsCrowdedAt (c :: (front ++ s)) 0 body' := fun body' hbody' =>
      h.1 ((isBlockAt_zero_iff c _ body').mp hbody'.1).1.symm
    rw [List.cons_append, isFirstCrowded_cons_iff hno]
    simp only [ih h.2, List.length_cons]
    constructor
    · rintro ⟨_, rfl, i', rfl, hi'⟩
      exact ⟨i', by omega, hi'⟩
    · rintro ⟨i', rfl, hi'⟩
      exact ⟨i' + front.length, by omega, i', rfl, hi'⟩

/-! ### The scan for blocks -/

/-- Whether a segment is a block with two question marks or more. -/
def isCrowded (segment : Segment) : Bool := segment.body?.any fun body => 1 < slotCount body

theorem isCrowded_block_iff (body : Text) :
    isCrowded (.block body) = true ↔ 1 < body.count '?' := by
  simp [isCrowded, body?, slotCount_eq_count]

/-- Without nested braces no opening brace stands between another one and the next closing one. -/
theorem forall_not_isBrace_of_not_isNested {body back : Text}
    (h : ∀ j, ¬IsNested ('{' :: (body ++ '}' :: back)) j) (hclose : '}' ∉ body) :
    ∀ c ∈ body, isBrace c = false := by
  intro c hc
  rw [isBrace, Bool.or_eq_false_iff, decide_eq_false_iff_not, decide_eq_false_iff_not]
  refine ⟨?_, ?_⟩
  · rintro rfl
    obtain ⟨between, after, rfl⟩ := List.append_of_mem hc
    rw [List.mem_append, not_or] at hclose
    exact h _ ⟨[], between, after ++ '}' :: back, by simp, hclose.1, rfl⟩
  · rintro rfl
    exact hclose hc

/-- An opening brace that the scan takes for a character opens no block. -/
theorem not_isBlockAt_zero_of_head?_ne {rest : Text} (hnested : ∀ j, ¬IsNested ('{' :: rest) j)
    (h : (fromBrace rest).head? ≠ some '}') (body : Text) : ¬IsBlockAt ('{' :: rest) 0 body := by
  rw [isBlockAt_zero_iff]
  rintro ⟨-, hclose, back, rfl⟩
  have hplain := forall_not_isBrace_of_not_isNested hnested hclose
  rw [fromBrace_append hplain, fromBrace_close] at h
  exact h rfl

theorem not_isNested_of_append (front : Text) {s : Text} (h : ∀ j, ¬IsNested (front ++ s) j)
    (j : Nat) : ¬IsNested s j := by
  rintro ⟨before, between, back, rfl, hmem, rfl⟩
  exact h _ ⟨front ++ before, between, back, by simp, hmem, rfl⟩

/-- An opening brace that the scan takes for the beginning of a block opens that block. -/
theorem isBlockAt_zero_iff_eq_interior {rest : Text} (hnested : ∀ j, ¬IsNested ('{' :: rest) j)
    (h : (fromBrace rest).head? = some '}') (body : Text) :
    IsBlockAt ('{' :: rest) 0 body ↔ body = interior rest := by
  have hrest := eq_interior_append h
  rw [isBlockAt_zero_iff]
  constructor
  · rintro ⟨-, hbody, back, rfl⟩
    rw [interior_append_close (forall_not_isBrace_of_not_isNested hnested hbody)]
  · rintro rfl
    refine ⟨rfl, ?_, _, hrest⟩
    intro hmem
    exact absurd (not_isBrace_of_mem_interior hmem) (by decide)

/-- A block that is not crowded moves the leftmost crowded block by its length. -/
theorem isFirstCrowded_block_iff {rest : Text} (h : (fromBrace rest).head? = some '}')
    (hfirst : ∀ body, ¬IsCrowdedAt ('{' :: rest) 0 body) (i : Nat) (body : Text) :
    IsFirstCrowded ('{' :: rest) i body ↔ ∃ i', i = i' + (interior rest).length + 2 ∧
      IsFirstCrowded (fromBrace rest).tail i' body := by
  have hmove := isFirstCrowded_append_iff (open_not_mem_interior_append rest) (fromBrace rest).tail
  rw [List.append_assoc, List.singleton_append, ← eq_interior_append h] at hmove
  simp only [isFirstCrowded_cons_iff hfirst, hmove, List.length_append, List.length_singleton]
  constructor
  · rintro ⟨_, rfl, i', rfl, hi'⟩
    exact ⟨i', rfl, hi'⟩
  · rintro ⟨i', rfl, hi'⟩
    exact ⟨_, rfl, i', rfl, hi'⟩

theorem not_isNested_tail_of_head? {rest : Text} (hnested : ∀ j, ¬IsNested ('{' :: rest) j)
    (h : (fromBrace rest).head? = some '}') (j : Nat) : ¬IsNested (fromBrace rest).tail j := by
  rw [eq_source_append h] at hnested
  exact not_isNested_of_append _ hnested j

/-- On a template without nested braces the first crowded block of the scan is the leftmost one. -/
theorem find?_isCrowded_eq_some_iff (s : Text) (h : ∀ j, ¬IsNested s j) (segment : Segment) :
    (blocks s).find? isCrowded = some segment ↔
      ∃ i body, segment = .block body ∧ IsFirstCrowded s i body := by
  unfold blocks
  fun_induction scan ⟨true, false⟩ s with
  | case1 => simp [IsFirstCrowded, IsCrowdedAt, not_isBlockAt_nil]
  | case2 c rest hc _ => exact absurd hc.2 (by decide)
  | case3 c rest _ hc ih =>
    obtain ⟨rfl, -, hbrace⟩ := hc
    have hblock := isBlockAt_zero_iff_eq_interior h hbrace
    by_cases hcrowded : 1 < (interior rest).count '?'
    · have hhere : IsCrowdedAt ('{' :: rest) 0 (interior rest) := ⟨(hblock _).mpr rfl, hcrowded⟩
      rw [List.find?_cons_of_pos ((isCrowded_block_iff _).mpr hcrowded), Option.some.injEq]
      constructor
      · rintro rfl
        exact ⟨0, _, rfl, hhere, fun i' hi' => absurd hi' (Nat.not_lt_zero i')⟩
      · rintro ⟨i, body, rfl, hi, hmin⟩
        cases i with
        | zero => rw [(hblock body).mp hi.1]
        | succ i => exact absurd hhere (hmin 0 (Nat.succ_pos i) (interior rest))
    · have hfirst : ∀ body, ¬IsCrowdedAt ('{' :: rest) 0 body := by
        rintro body ⟨hbody, hcount⟩
        rw [(hblock body).mp hbody] at hcount
        exact hcrowded hcount
      rw [List.find?_cons_of_neg (by rwa [isCrowded_block_iff]),
        ih (not_isNested_tail_of_head? h hbrace)]
      simp only [isFirstCrowded_block_iff hbrace hfirst]
      constructor
      · rintro ⟨i, body, hbody, hi⟩
        exact ⟨_, body, hbody, i, rfl, hi⟩
      · rintro ⟨_, body, hbody, i, rfl, hi⟩
        exact ⟨i, body, hbody, hi⟩
  | case4 c rest _ hc ih =>
    have hfirst : ∀ body, ¬IsCrowdedAt (c :: rest) 0 body := by
      rintro body ⟨hbody, -⟩
      have hbrace := ((isBlockAt_zero_iff c rest body).mp hbody).1
      subst hbrace
      exact not_isBlockAt_zero_of_head?_ne h (fun hhead => hc ⟨rfl, rfl, hhead⟩) body hbody
    have htail : ∀ j, ¬IsNested rest j := not_isNested_of_append [c] h
    rw [List.find?_cons_of_neg (by simp [isCrowded, body?]), ih htail]
    simp only [isFirstCrowded_cons_iff hfirst]
    constructor
    · rintro ⟨i, body, hbody, hi⟩
      exact ⟨_, body, hbody, i, rfl, hi⟩
    · rintro ⟨_, body, hbody, i, rfl, hi⟩
      exact ⟨i, body, hbody, hi⟩

/-- The scan finds no crowded block exactly if there is none. -/
theorem find?_isCrowded_eq_none_iff (s : Text) (h : ∀ j, ¬IsNested s j) :
    (blocks s).find? isCrowded = none ↔ ∀ i body, ¬IsCrowdedAt s i body := by
  constructor
  · intro hnone i
    induction i using Nat.strongRecOn with
    | ind i hmin =>
      intro body hbody
      rw [(find?_isCrowded_eq_some_iff s h (.block body)).mpr ⟨i, body, rfl, hbody, hmin⟩] at hnone
      cases hnone
  · intro hno
    rw [Option.eq_none_iff_forall_ne_some]
    intro segment hsegment
    obtain ⟨i, body, -, hfirst⟩ := (find?_isCrowded_eq_some_iff s h segment).mp hsegment
    exact hno i body hfirst.1

/-! ### The verdict -/

/-- What the check of a template with so many arguments comes to. Nested braces come first, then
crowded blocks, then the number of arguments. -/
inductive Verdict (s : Text) (given : Nat) : Except Failure Unit → Prop
  | nested (j : Nat) (h : IsNested s j) (hmin : ∀ j' < j, ¬IsNested s j') :
      Verdict s given (.error (.nestedBlock j))
  | crowded (i : Nat) (body : Text) (hnested : ∀ j, ¬IsNested s j) (h : IsCrowdedAt s i body)
      (hmin : ∀ i' < i, ∀ body', ¬IsCrowdedAt s i' body') :
      Verdict s given (.error (.crowdedBlock ('{' :: body ++ ['}']) (body.count '?')))
  | miscounted (hnested : ∀ j, ¬IsNested s j) (hcrowded : ∀ i body, ¬IsCrowdedAt s i body)
      (h : s.count '?' ≠ given) :
      Verdict s given (.error (.argumentCount (s.count '?') given))
  | accepted (hnested : ∀ j, ¬IsNested s j) (hcrowded : ∀ i body, ¬IsCrowdedAt s i body)
      (h : s.count '?' = given) :
      Verdict s given (.ok ())

theorem checkNesting_of_isNested {s : Text} {j : Nat} (h : IsNested s j)
    (hmin : ∀ j' < j, ¬IsNested s j') :
    checkNesting (s.map Brace.ofChar?) = .error (.nestedBlock j) := by
  rw [checkNesting, (nested?_eq_some_iff s j).mpr ⟨h, hmin⟩]

theorem checkNesting_of_not_isNested {s : Text} (h : ∀ j, ¬IsNested s j) :
    checkNesting (s.map Brace.ofChar?) = .ok () := by
  rw [checkNesting, (nested?_eq_none_iff s).mpr h]

theorem checkCrowding_of_isCrowdedAt {s body : Text} {i : Nat} (hnested : ∀ j, ¬IsNested s j)
    (h : IsFirstCrowded s i body) :
    checkCrowding s = .error (.crowdedBlock ('{' :: body ++ ['}']) (body.count '?')) := by
  have hfind := (find?_isCrowded_eq_some_iff s hnested (.block body)).mpr ⟨i, body, rfl, h⟩
  unfold isCrowded at hfind
  rw [checkCrowding, hfind]
  simp [source, body?, slotCount_eq_count]

theorem checkCrowding_of_not_isCrowdedAt {s : Text} (hnested : ∀ j, ¬IsNested s j)
    (h : ∀ i body, ¬IsCrowdedAt s i body) : checkCrowding s = .ok () := by
  have hfind := (find?_isCrowded_eq_none_iff s hnested).mpr h
  unfold isCrowded at hfind
  rw [checkCrowding, hfind]

theorem validate_of_verdict {s : Text} {given : Nat} {result : Except Failure Unit}
    (h : Verdict s given result) : validate s given = result := by
  unfold validate checkBlocks
  cases h with
  | nested j h hmin => rw [checkNesting_of_isNested h hmin]; rfl
  | crowded i body hnested h hmin =>
    rw [checkNesting_of_not_isNested hnested, checkCrowding_of_isCrowdedAt hnested ⟨h, hmin⟩]
    rfl
  | miscounted hnested hcrowded h =>
    rw [checkNesting_of_not_isNested hnested, checkCrowding_of_not_isCrowdedAt hnested hcrowded]
    show checkCount s given = _
    rw [checkCount, slotCount_eq_count, if_neg h]
  | accepted hnested hcrowded h =>
    rw [checkNesting_of_not_isNested hnested, checkCrowding_of_not_isCrowdedAt hnested hcrowded]
    show checkCount s given = _
    rw [checkCount, slotCount_eq_count, if_pos h]

/-- Every template has a verdict. -/
theorem exists_verdict (s : Text) (given : Nat) : ∃ result, Verdict s given result := by
  cases hnested : Brace.nested? (s.map Brace.ofChar?) with
  | some j =>
    obtain ⟨h, hmin⟩ := (nested?_eq_some_iff s j).mp hnested
    exact ⟨_, .nested j h hmin⟩
  | none =>
    have hnested := (nested?_eq_none_iff s).mp hnested
    cases hcrowded : (blocks s).find? isCrowded with
    | some segment =>
      obtain ⟨i, body, -, h, hmin⟩ := (find?_isCrowded_eq_some_iff s hnested segment).mp hcrowded
      exact ⟨_, .crowded i body hnested h hmin⟩
    | none =>
      have hcrowded := (find?_isCrowded_eq_none_iff s hnested).mp hcrowded
      by_cases h : s.count '?' = given
      · exact ⟨_, .accepted hnested hcrowded h⟩
      · exact ⟨_, .miscounted hnested hcrowded h⟩

theorem verdict_validate (s : Text) (given : Nat) : Verdict s given (validate s given) := by
  obtain ⟨result, h⟩ := exists_verdict s given
  rwa [validate_of_verdict h]

/-- The check comes to the verdict and to nothing else. -/
theorem validate_eq_iff_verdict (s : Text) (args : List Value) (result : Except Failure Unit) :
    validate s args.length = result ↔ Verdict s args.length result := by
  constructor
  · rintro rfl
    exact verdict_validate s args.length
  · exact validate_of_verdict

end QueryTemplate.Template
