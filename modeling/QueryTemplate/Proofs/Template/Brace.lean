import Mathlib.Data.List.TakeWhile
import Mathlib.Tactic
import QueryTemplate.Template.Check

/-! Braces in a template, said without a scan: where a block opens inside another one, and which
texts stand between an opening brace and the next closing one. The search for nested blocks carries
a flag; it stands for the last brace seen, so the places it reports are those of the definition. -/

namespace QueryTemplate.Segment

theorem not_isBrace_of_mem_interior {s : Text} {c : Char} (h : c ∈ interior s) :
    isBrace c = false := by
  simpa using List.mem_takeWhile_imp h

/-- Looking for the next brace passes over a text without braces. -/
theorem fromBrace_append {front : Text} (h : ∀ c ∈ front, isBrace c = false) (s : Text) :
    fromBrace (front ++ s) = fromBrace s := by
  rw [fromBrace, List.dropWhile_append_of_pos (by simpa using h), fromBrace]

theorem interior_append {front : Text} (h : ∀ c ∈ front, isBrace c = false) (s : Text) :
    interior (front ++ s) = front ++ interior s := by
  rw [interior, List.takeWhile_append_of_pos (by simpa using h), interior]

theorem fromBrace_cons {c : Char} (h : isBrace c = true) (s : Text) :
    fromBrace (c :: s) = c :: s := by
  rw [fromBrace, List.dropWhile_cons_of_neg (by simp [h])]

theorem interior_cons {c : Char} (h : isBrace c = true) (s : Text) : interior (c :: s) = [] := by
  rw [interior, List.takeWhile_cons_of_neg (by simp [h])]

theorem fromBrace_close (s : Text) : fromBrace ('}' :: s) = '}' :: s := fromBrace_cons rfl s

/-- A text without braces is the whole interior before the next closing brace. -/
theorem interior_append_close {body : Text} (h : ∀ c ∈ body, isBrace c = false) (back : Text) :
    interior (body ++ '}' :: back) = body := by
  rw [interior_append h, interior_cons rfl, List.append_nil]

/-- Where the next brace is a closing one, it stands between the interior and the rest. -/
theorem eq_interior_append {s : Text} (h : (fromBrace s).head? = some '}') :
    s = interior s ++ '}' :: (fromBrace s).tail := by
  conv_lhs => rw [← interior_append_fromBrace s]
  cases hs : fromBrace s with
  | nil => simp [hs] at h
  | cons d rest =>
    rw [hs, List.head?_cons, Option.some.injEq] at h
    rw [h, List.tail_cons]

/-- Where the scan finds a block, the text begins with its source. -/
theorem eq_source_append {rest : Text} (h : (fromBrace rest).head? = some '}') :
    '{' :: rest = source (.block (interior rest)) ++ (fromBrace rest).tail := by
  conv_lhs => rw [eq_interior_append h]
  simp [source]

/-- No block opens before the next one is closed. -/
theorem open_not_mem_interior_append (s : Text) : '{' ∉ interior s ++ ['}'] := by
  rw [List.mem_append, not_or]
  refine ⟨fun hmem => ?_, by decide⟩
  exact absurd (not_isBrace_of_mem_interior hmem) (by decide)

end QueryTemplate.Segment

namespace QueryTemplate.Template

/-- An opening brace at place `j`, after another one with no closing brace between the two. -/
def IsNested (s : Text) (j : Nat) : Prop :=
  ∃ front between back, s = front ++ '{' :: between ++ '{' :: back ∧ '}' ∉ between ∧
    j = (front ++ '{' :: between).length

/-- An opening brace at place `i`, and the text between it and the next closing brace. -/
def IsBlockAt (s : Text) (i : Nat) (body : Text) : Prop :=
  ∃ front back, s = front ++ '{' :: body ++ '}' :: back ∧ '}' ∉ body ∧ i = front.length

/-- A block with two question marks or more. -/
def IsCrowdedAt (s : Text) (i : Nat) (body : Text) : Prop :=
  IsBlockAt s i body ∧ 1 < body.count '?'

/-! ### The flag of the search -/

/-- An opening brace at place `j` with no closing brace before it. -/
def OpensFirst (s : Text) (j : Nat) : Prop :=
  ∃ between back, s = between ++ '{' :: back ∧ '}' ∉ between ∧ j = between.length

/-- What the search reports from a place on: nested braces, and the first opening brace if a block
is open where the search begins. -/
def IsNestedFrom (inside : Bool) (s : Text) (j : Nat) : Prop :=
  IsNested s j ∨ inside = true ∧ OpensFirst s j

/-- The flag after one more character. -/
def flagAfter (inside : Bool) (c : Char) : Bool :=
  if c = '{' then true else if c = '}' then false else inside

theorem not_isNested_nil (j : Nat) : ¬IsNested [] j := by
  rintro ⟨front, between, back, h, -⟩
  simp at h

theorem not_opensFirst_nil (j : Nat) : ¬OpensFirst [] j := by
  rintro ⟨between, back, h, -⟩
  simp at h

theorem not_isNested_zero (s : Text) : ¬IsNested s 0 := by
  rintro ⟨front, between, back, -, -, h⟩
  simp at h

theorem opensFirst_cons_zero (c : Char) (s : Text) : OpensFirst (c :: s) 0 ↔ c = '{' := by
  constructor
  · rintro ⟨between, back, h, -, hlen⟩
    rw [List.length_eq_zero_iff.mp hlen.symm] at h
    exact (List.cons.inj h).1
  · rintro rfl
    exact ⟨[], s, rfl, List.not_mem_nil, rfl⟩

theorem opensFirst_cons_succ (c : Char) (s : Text) (j : Nat) :
    OpensFirst (c :: s) (j + 1) ↔ c ≠ '}' ∧ OpensFirst s j := by
  constructor
  · rintro ⟨between, back, h, hmem, hlen⟩
    cases between with
    | nil => simp at hlen
    | cons d between =>
      obtain ⟨rfl, rfl⟩ := List.cons.inj h
      rw [List.mem_cons, not_or] at hmem
      exact ⟨Ne.symm hmem.1, between, back, rfl, hmem.2, Nat.succ.inj hlen⟩
  · rintro ⟨hc, between, back, rfl, hmem, rfl⟩
    refine ⟨c :: between, back, rfl, ?_, rfl⟩
    rw [List.mem_cons, not_or]
    exact ⟨Ne.symm hc, hmem⟩

theorem isNested_cons_succ (c : Char) (s : Text) (j : Nat) :
    IsNested (c :: s) (j + 1) ↔ IsNested s j ∨ c = '{' ∧ OpensFirst s j := by
  constructor
  · rintro ⟨front, between, back, h, hmem, hlen⟩
    cases front with
    | nil =>
      obtain ⟨rfl, rfl⟩ := List.cons.inj h
      exact Or.inr ⟨rfl, between, back, rfl, hmem, Nat.succ.inj hlen⟩
    | cons d front =>
      obtain ⟨rfl, rfl⟩ := List.cons.inj h
      exact Or.inl ⟨front, between, back, rfl, hmem, Nat.succ.inj hlen⟩
  · rintro (⟨front, between, back, rfl, hmem, rfl⟩ | ⟨rfl, between, back, rfl, hmem, rfl⟩)
    · exact ⟨c :: front, between, back, rfl, hmem, rfl⟩
    · exact ⟨[], between, back, rfl, hmem, rfl⟩

theorem isNestedFrom_false (s : Text) (j : Nat) : IsNestedFrom false s j ↔ IsNested s j := by
  simp [IsNestedFrom]

theorem isNestedFrom_zero (inside : Bool) (c : Char) (s : Text) :
    IsNestedFrom inside (c :: s) 0 ↔ inside = true ∧ c = '{' := by
  simp [IsNestedFrom, not_isNested_zero, opensFirst_cons_zero]

/-- Reading one character turns the flag and moves every place by one. -/
theorem isNestedFrom_succ (inside : Bool) (c : Char) (s : Text) (j : Nat) :
    IsNestedFrom inside (c :: s) (j + 1) ↔ IsNestedFrom (flagAfter inside c) s j := by
  rw [IsNestedFrom, IsNestedFrom, isNested_cons_succ, opensFirst_cons_succ]
  by_cases hopen : c = '{'
  · subst hopen
    simp only [flagAfter, if_true]
    tauto
  · by_cases hclose : c = '}'
    · subst hclose
      simp [flagAfter]
    · simp [flagAfter, hopen, hclose]

/-- The search reports the first place, counted from where it begins. -/
theorem nestedFrom?_eq_some_iff (s : Text) (inside : Bool) (position j : Nat) :
    Brace.nestedFrom? inside position (s.map Brace.ofChar?) = some j ↔
      ∃ d, j = position + d ∧ IsNestedFrom inside s d ∧ ∀ d' < d, ¬IsNestedFrom inside s d' := by
  induction s generalizing inside position with
  | nil => simp [Brace.nestedFrom?, IsNestedFrom, not_isNested_nil, not_opensFirst_nil]
  | cons c s ih =>
    -- the first place is either this one, or one more than the first place of the rest
    have hstep : Brace.nestedFrom? inside position ((c :: s).map Brace.ofChar?) =
        if inside = true ∧ c = '{' then some position
        else Brace.nestedFrom? (flagAfter inside c) (position + 1) (s.map Brace.ofChar?) := by
      by_cases hopen : c = '{'
      · subst hopen
        simp only [List.map_cons, Brace.ofChar?, if_true, Brace.nestedFrom?, and_true, flagAfter]
      · by_cases hclose : c = '}'
        · subst hclose
          simp [Brace.ofChar?, Brace.nestedFrom?, flagAfter]
        · simp [Brace.ofChar?, Brace.nestedFrom?, flagAfter, hopen, hclose]
    rw [hstep]
    split_ifs with h
    · constructor
      · rintro ⟨⟩
        exact ⟨0, rfl, (isNestedFrom_zero _ _ _).mpr h,
          fun d' hd' => absurd hd' (Nat.not_lt_zero d')⟩
      · rintro ⟨d, rfl, -, hmin⟩
        cases d with
        | zero => rfl
        | succ d => exact absurd ((isNestedFrom_zero _ _ _).mpr h) (hmin 0 (Nat.succ_pos d))
    · rw [ih]
      constructor
      · rintro ⟨d, rfl, hd, hmin⟩
        refine ⟨d + 1, by omega, (isNestedFrom_succ _ _ _ _).mpr hd, ?_⟩
        intro d' hd'
        cases d' with
        | zero => rwa [isNestedFrom_zero]
        | succ d' =>
          rw [isNestedFrom_succ]
          exact hmin d' (Nat.lt_of_succ_lt_succ hd')
      · rintro ⟨d, rfl, hd, hmin⟩
        cases d with
        | zero => exact absurd ((isNestedFrom_zero _ _ _).mp hd) h
        | succ d =>
          refine ⟨d, by omega, (isNestedFrom_succ _ _ _ _).mp hd, fun d' hd' => ?_⟩
          rw [← isNestedFrom_succ inside c]
          exact hmin (d' + 1) (Nat.succ_lt_succ hd')

/-- The search over a whole template reports the first nested brace. -/
theorem nested?_eq_some_iff (s : Text) (j : Nat) :
    Brace.nested? (s.map Brace.ofChar?) = some j ↔ IsNested s j ∧ ∀ j' < j, ¬IsNested s j' := by
  simp [Brace.nested?, nestedFrom?_eq_some_iff, isNestedFrom_false]

/-- The search reports nothing exactly if no brace is nested. -/
theorem nested?_eq_none_iff (s : Text) :
    Brace.nested? (s.map Brace.ofChar?) = none ↔ ∀ j, ¬IsNested s j := by
  constructor
  · intro hnone j
    induction j using Nat.strongRecOn with
    | ind j hmin =>
      intro hj
      rw [(nested?_eq_some_iff s j).mpr ⟨hj, hmin⟩] at hnone
      cases hnone
  · intro hno
    rw [Option.eq_none_iff_forall_ne_some]
    intro j hj
    exact hno j ((nested?_eq_some_iff s j).mp hj).1

end QueryTemplate.Template
