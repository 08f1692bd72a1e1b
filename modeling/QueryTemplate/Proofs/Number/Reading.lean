import Mathlib.Data.List.TakeWhile
import QueryTemplate.Proofs.Number.Notation

/-! Reading a numeral in ASCII, part by part: spacing around it, a sign, digits with a point among
them, an exponent. What is read is put together from exactly these characters, so any other one
makes a reader refuse. -/

namespace QueryTemplate.Number.Numeral

/-- The digits after the point, with the point. -/
def pointed (fraction : Option Text) : Text := fraction.elim [] ('.' :: ·)

/-! ### Rows of characters -/

theorem takeWhile_row {p : Char → Bool} {row rest : Text} (hrow : ∀ c ∈ row, p c = true)
    (hrest : rest.head?.any p = false) : (row ++ rest).takeWhile p = row := by
  rw [List.takeWhile_append_of_pos hrow]
  cases rest with
  | nil => exact List.append_nil row
  | cons c rest => rw [List.takeWhile_cons_of_neg (by simpa using hrest), List.append_nil]

theorem dropWhile_row {p : Char → Bool} {row rest : Text} (hrow : ∀ c ∈ row, p c = true)
    (hrest : rest.head?.any p = false) : (row ++ rest).dropWhile p = rest := by
  rw [List.dropWhile_append_of_pos hrow]
  cases rest with
  | nil => rfl
  | cons c rest => exact List.dropWhile_cons_of_neg (by simpa using hrest)

theorem any_head?_eq_false {p : Char → Bool} {t : Text} (h : ∀ c ∈ t, p c = false) :
    t.head?.any p = false := by
  cases t with
  | nil => rfl
  | cons c t => exact h c List.mem_cons_self

/-- Trimming leaves a row of other characters between two margins. -/
theorem trim_append {p : Char → Bool} {before row after : Text} (hbefore : ∀ c ∈ before, p c = true)
    (hrow : ∀ c ∈ row, p c = false) (hne : row ≠ []) (hafter : ∀ c ∈ after, p c = true) :
    Text.trim p (before ++ (row ++ after)) = row := by
  have hfirst : (row ++ after).head?.any p = false := by
    rw [List.head?_append_of_ne_nil _ hne]
    exact any_head?_eq_false hrow
  have hlast : row.reverse.head?.any p = false :=
    any_head?_eq_false fun c hc => hrow c (List.mem_reverse.mp hc)
  have hmargin : ∀ c ∈ after.reverse, p c = true := fun c hc => hafter c (List.mem_reverse.mp hc)
  rw [Text.trim, dropWhile_row hbefore hfirst, List.reverse_append, dropWhile_row hmargin hlast,
    List.reverse_reverse]

/-- What is trimmed off are two margins. -/
theorem exists_margins (p : Char → Bool) (s : Text) :
    ∃ before after, s = before ++ (Text.trim p s ++ after) ∧ (∀ c ∈ before, p c = true) ∧
      ∀ c ∈ after, p c = true := by
  refine ⟨s.takeWhile p, ((s.dropWhile p).reverse.takeWhile p).reverse, ?_,
    fun c hc => List.mem_takeWhile_imp hc,
    fun c hc => List.mem_takeWhile_imp (List.mem_reverse.mp hc)⟩
  rw [Text.trim, ← List.reverse_append, List.takeWhile_append_dropWhile, List.reverse_reverse,
    List.takeWhile_append_dropWhile]

theorem separatesDigits_of_not_mem {s : Text} (h : '_' ∉ s) (previous : Char) :
    separatesDigits previous s = true := by
  induction s generalizing previous with
  | nil => rfl
  | cons c s ih =>
    obtain ⟨hc, hs⟩ := not_or.mp (fun hmem => h (List.mem_cons.mpr hmem))
    rw [separatesDigits]
    · exact ih hs c
    · exact fun heq => hc heq.symm

/-! ### Characters of a numeral -/

/-- Whether a character is to be seen and is no low line, as all characters of a magnitude are. -/
def IsVisible (c : Char) : Prop := 32 < c.toNat ∧ c ≠ '_'

theorem toNat_lt_of_isDigit {c : Char} (h : c.isDigit = true) : c.toNat < 65 :=
  (Char.isDigit_iff_toNat.mp h).2.trans_lt (by decide)

theorem isVisible_of_isDigit {c : Char} (h : c.isDigit = true) : IsVisible c := by
  refine ⟨lt_of_lt_of_le (by decide) (Char.isDigit_iff_toNat.mp h).1, ?_⟩
  rintro rfl
  cases h

theorem isVisible_of_isSign {sign : Text} (h : IsSign sign) : ∀ c ∈ sign, IsVisible c := by
  rcases h with rfl | rfl | rfl
  · exact fun c hc => by cases hc
  · exact List.forall_mem_singleton.mpr ⟨by decide, by decide⟩
  · exact List.forall_mem_singleton.mpr ⟨by decide, by decide⟩

theorem isSpacing_eq_false {c : Char} (h : IsVisible c) : Text.isSpacing c = false := by
  have hc := h.1
  simp only [Text.isSpacing, Text.inRanges, List.any_cons, List.any_nil, Bool.or_eq_false_iff,
    Bool.and_eq_false_iff, decide_eq_false_iff_not, and_true]
  omega

theorem not_isRow_of_isSpacing {c : Char} (h : Text.isSpacing c = true) :
    (c.isDigit || c = '_') = false := by
  rw [Bool.or_eq_false_iff, decide_eq_false_iff_not]
  constructor
  · by_contra hdigit
    rw [Bool.not_eq_false] at hdigit
    exact absurd h (by rw [isSpacing_eq_false (isVisible_of_isDigit hdigit)]; decide)
  · rintro rfl
    exact absurd h (by decide)

theorem toLower_eq_self {c : Char} (h : c.toNat < 65) : c.toLower = c := by
  unfold Char.toLower
  rw [dif_neg]
  rintro ⟨hlow, -⟩
  exact absurd (UInt32.le_iff_toNat_le.mp hlow) (not_le.mpr h)

/-! ### Signs -/

theorem splitSign_append {sign t : Text} (hsign : IsSign sign)
    (ht : t.head?.any (fun c => c = '-' || c = '+') = false) :
    splitSign (sign ++ t) = (decide (sign = ['-']), t) := by
  rcases hsign with rfl | rfl | rfl
  · rw [List.nil_append]
    unfold splitSign
    split
    · cases ht
    · cases ht
    · rfl
  · rfl
  · rfl

theorem exists_sign (s : Text) : ∃ sign, IsSign sign ∧ s = sign ++ (splitSign s).2 := by
  unfold splitSign
  split
  · exact ⟨['-'], Or.inr (Or.inl rfl), rfl⟩
  · exact ⟨['+'], Or.inr (Or.inr rfl), rfl⟩
  · exact ⟨[], Or.inl rfl, rfl⟩

theorem not_sign_of_isDigit {c : Char} (h : c.isDigit = true) : (c = '-' || c = '+') = false := by
  rw [Bool.or_eq_false_iff, decide_eq_false_iff_not, decide_eq_false_iff_not]
  constructor
  · rintro rfl
    cases h
  · rintro rfl
    cases h

/-! ### Exponents -/

theorem exponent?_append {mark : Char} (hmark : mark = 'e' ∨ mark = 'E') {sign ds : Text}
    (hsign : IsSign sign) (hds : isDigits ds = true) : exponent? (mark :: (sign ++ ds)) =
      some (if sign = ['-'] then -(ofDigits ds : ℤ) else ofDigits ds) := by
  have hhead : ds.head?.any (fun c => c = '-' || c = '+') = false :=
    any_head?_eq_false fun c hc => not_sign_of_isDigit ((isDigits_iff.mp hds).2 c hc)
  rw [exponent?, splitSign_append hsign hhead]
  dsimp only
  rw [if_pos]
  · simp only [decide_eq_true_eq]
  · simpa [hds] using hmark

theorem isExponent_of_exponent?_eq_some {t : Text} {e : ℤ} (h : exponent? t = some e) :
    IsExponent t := by
  cases t with
  | nil => exact Or.inl rfl
  | cons mark rest =>
    obtain ⟨sign, hsign, hrest⟩ := exists_sign rest
    simp only [exponent?, Option.ite_none_right_eq_some, Bool.and_eq_true, Bool.or_eq_true,
      decide_eq_true_eq] at h
    exact Or.inr ⟨mark, sign, (splitSign rest).2, by rw [← hrest], h.1.1, hsign, h.1.2⟩

theorem isVisible_of_isExponent {t : Text} (h : IsExponent t) : ∀ c ∈ t, IsVisible c := by
  rcases h with rfl | ⟨mark, sign, ds, rfl, hmark, hsign, hds⟩
  · exact fun c hc => by cases hc
  · rw [List.forall_mem_cons, List.forall_mem_append]
    refine ⟨?_, isVisible_of_isSign hsign, fun c hc => ?_⟩
    · rcases hmark with rfl | rfl
      · exact ⟨by decide, by decide⟩
      · exact ⟨by decide, by decide⟩
    · exact isVisible_of_isDigit ((isDigits_iff.mp hds).2 c hc)

/-- Digits end where an exponent begins. -/
theorem head?_of_isExponent {t : Text} (h : IsExponent t) :
    t.head?.any Char.isDigit = false ∧ t.head? ≠ some '.' := by
  rcases h with rfl | ⟨mark, sign, ds, rfl, rfl | rfl, -, -⟩
  · exact ⟨rfl, by simp⟩
  · exact ⟨rfl, by simp⟩
  · exact ⟨rfl, by simp⟩

/-! ### Magnitudes -/

/-- The digits after a point and what follows them. -/
def splitFraction : Text → Option Text × Text
  | '.' :: rest => (some (rest.takeWhile Char.isDigit), rest.dropWhile Char.isDigit)
  | t => (none, t)

theorem splitFraction_append {fraction : Option Text} {tail : Text}
    (hfraction : ∀ c ∈ fraction.getD [], c.isDigit = true)
    (hend : tail.head?.any Char.isDigit = false) (hpoint : tail.head? ≠ some '.') :
    splitFraction (pointed fraction ++ tail) = (fraction, tail) := by
  cases fraction with
  | none =>
    change splitFraction tail = (none, tail)
    unfold splitFraction
    split
    · exact absurd rfl hpoint
    · rfl
  | some fraction =>
    change splitFraction ('.' :: (fraction ++ tail)) = (some fraction, tail)
    rw [Option.getD_some] at hfraction
    rw [splitFraction, takeWhile_row hfraction hend, dropWhile_row hfraction hend]

theorem eq_pointed_append (t : Text) :
    t = pointed (splitFraction t).1 ++ (splitFraction t).2 ∧
      ∀ c ∈ (splitFraction t).1.getD [], c.isDigit = true := by
  unfold splitFraction
  split
  · exact ⟨congrArg ('.' :: ·) List.takeWhile_append_dropWhile.symm,
      fun c hc => List.mem_takeWhile_imp hc⟩
  · exact ⟨rfl, fun c hc => by cases hc⟩

/-- A magnitude from its parts. -/
theorem magnitude?_eq (s : Text) : magnitude? s =
    let whole := s.takeWhile Char.isDigit
    let parts := splitFraction (s.dropWhile Char.isDigit)
    let fraction := parts.1.getD []
    if whole ++ fraction = [] then none
    else (exponent? parts.2).map fun e => ⟨ofDigits (whole ++ fraction), e - fraction.length⟩ := by
  have hempty (whole fraction : Text) :
      (whole.isEmpty && fraction.isEmpty) = decide (whole ++ fraction = []) := by
    rw [Bool.eq_iff_iff, Bool.and_eq_true, List.isEmpty_iff, List.isEmpty_iff, decide_eq_true_iff,
      List.append_eq_nil_iff]
  unfold magnitude? splitFraction
  generalize s.dropWhile Char.isDigit = tail
  dsimp only
  split
  · simp only [hempty, decide_eq_true_eq, Option.getD_some]
  · simp only [hempty, decide_eq_true_eq, Option.getD_none]

theorem magnitude?_append {whole tail : Text} {fraction : Option Text} {e : ℤ}
    (hdigits : ∀ c ∈ whole ++ fraction.getD [], c.isDigit = true)
    (hne : whole ++ fraction.getD [] ≠ []) (htail : exponent? tail = some e) :
    magnitude? (whole ++ (pointed fraction ++ tail)) =
      some ⟨ofDigits (whole ++ fraction.getD []), e - (fraction.getD []).length⟩ := by
  rw [List.forall_mem_append] at hdigits
  obtain ⟨hend, hpoint⟩ := head?_of_isExponent (isExponent_of_exponent?_eq_some htail)
  have hstop : (pointed fraction ++ tail).head?.any Char.isDigit = false := by
    cases fraction with
    | none => exact hend
    | some fraction => rfl
  rw [magnitude?_eq, takeWhile_row hdigits.1 hstop, dropWhile_row hdigits.1 hstop,
    splitFraction_append hdigits.2 hend hpoint]
  dsimp only
  rw [if_neg hne, htail]
  rfl

theorem exists_of_magnitude?_eq_some {s : Text} {m : Scientific} (h : magnitude? s = some m) :
    ∃ whole fraction tail, s = whole ++ (pointed fraction ++ tail) ∧
      (∀ c ∈ whole ++ fraction.getD [], c.isDigit = true) ∧ whole ++ fraction.getD [] ≠ [] ∧
      IsExponent tail := by
  rw [magnitude?_eq] at h
  dsimp only at h
  rw [Option.ite_none_left_eq_some, Option.map_eq_some_iff] at h
  obtain ⟨hne, e, he, -⟩ := h
  obtain ⟨hparts, hfraction⟩ := eq_pointed_append (s.dropWhile Char.isDigit)
  refine ⟨_, _, _, ?_, ?_, hne, isExponent_of_exponent?_eq_some he⟩
  · rw [← hparts, List.takeWhile_append_dropWhile]
  · rw [List.forall_mem_append]
    exact ⟨fun c hc => List.mem_takeWhile_imp hc, hfraction⟩

/-- A magnitude has no sign in front, and there is a digit in it. -/
theorem chars_of_magnitude?_eq_some {s : Text} {m : Scientific} (h : magnitude? s = some m) :
    (∀ c ∈ s, IsVisible c) ∧ (∃ c ∈ s, c.isDigit = true) ∧
      s.head?.any (fun c => c = '-' || c = '+') = false := by
  obtain ⟨whole, fraction, tail, rfl, hdigits, hne, htail⟩ := exists_of_magnitude?_eq_some h
  rw [List.forall_mem_append] at hdigits
  refine ⟨?_, ?_, ?_⟩
  · rw [List.forall_mem_append, List.forall_mem_append]
    refine ⟨fun c hc => isVisible_of_isDigit (hdigits.1 c hc), ?_, isVisible_of_isExponent htail⟩
    cases fraction with
    | none => exact fun c hc => by cases hc
    | some fraction =>
      exact List.forall_mem_cons.mpr
        ⟨⟨by decide, by decide⟩, fun c hc => isVisible_of_isDigit (hdigits.2 c hc)⟩
  · obtain ⟨c, hc⟩ := List.exists_mem_of_ne_nil _ hne
    rcases List.mem_append.mp hc with hwhole | hfraction
    · exact ⟨c, List.mem_append_left _ hwhole, hdigits.1 c hwhole⟩
    · refine ⟨c, ?_, hdigits.2 c hfraction⟩
      cases fraction with
      | none => cases hfraction
      | some fraction =>
        exact List.mem_append_right _ (List.mem_append_left _ (List.mem_cons_of_mem _ hfraction))
  · cases whole with
    | cons c whole => exact not_sign_of_isDigit (hdigits.1 c List.mem_cons_self)
    | nil =>
      cases fraction with
      | none => exact absurd rfl hne
      | some fraction => rfl

/-! ### Integers -/

theorem asciiInteger_append {before sign ds after : Text}
    (hbefore : ∀ c ∈ before, Text.isSpacing c = true) (hsign : IsSign sign)
    (hds : isDigits ds = true) (hafter : ∀ c ∈ after, Text.isSpacing c = true) :
    asciiInteger (before ++ (sign ++ (ds ++ after))) =
      if digitLimit < ds.length then .error (.tooLong ds.length)
      else .ok (if sign = ['-'] then -(ofDigits ds : ℤ) else ofDigits ds) := by
  obtain ⟨hne, hall⟩ := isDigits_iff.mp hds
  have hfirst : (sign ++ (ds ++ after)).head?.any Text.isSpacing = false := by
    rw [← List.append_assoc,
      List.head?_append_of_ne_nil _ (List.append_ne_nil_of_right_ne_nil _ hne)]
    refine any_head?_eq_false fun c hc => isSpacing_eq_false ?_
    rcases List.mem_append.mp hc with hmem | hmem
    · exact isVisible_of_isSign hsign c hmem
    · exact isVisible_of_isDigit (hall c hmem)
  have hunsigned : (ds ++ after).head?.any (fun c => c = '-' || c = '+') = false := by
    rw [List.head?_append_of_ne_nil _ hne]
    exact any_head?_eq_false fun c hc => not_sign_of_isDigit (hall c hc)
  have hrow : ∀ c ∈ ds, (c.isDigit || c = '_') = true := by
    intro c hc
    rw [hall c hc, Bool.true_or]
  have hend : after.head?.any (fun c => c.isDigit || c = '_') = false :=
    any_head?_eq_false fun c hc => not_isRow_of_isSpacing (hafter c hc)
  have hline : '_' ∉ ds := fun hmem => (isVisible_of_isDigit (hall _ hmem)).2 rfl
  unfold asciiInteger
  rw [dropWhile_row hbefore hfirst, splitSign_append hsign hunsigned]
  dsimp only
  rw [takeWhile_row hrow hend, dropWhile_row hrow hend, List.filter_eq_self.mpr hall,
    List.isEmpty_eq_false_iff.mpr hne, separatesDigits_of_not_mem hline,
    List.all_eq_true.mpr hafter]
  simp

theorem chars_of_asciiInteger_eq_ok {s : Text} {n : ℤ} (h : asciiInteger s = .ok n) :
    ∀ c ∈ s, Text.isSpacing c = true ∨ c = '-' ∨ c = '+' ∨ c = '_' ∨ c.isDigit = true := by
  unfold asciiInteger at h
  dsimp only at h
  have hafter : ((splitSign (s.dropWhile Text.isSpacing)).2.dropWhile
      (fun c => c.isDigit || c = '_')).all Text.isSpacing = true := by
    split_ifs at h
    · assumption
    · assumption
  obtain ⟨sign, hsign, hbody⟩ := exists_sign (s.dropWhile Text.isSpacing)
  rw [← List.takeWhile_append_dropWhile (p := Text.isSpacing) (l := s), hbody,
    ← List.takeWhile_append_dropWhile (p := fun c => c.isDigit || c = '_')
      (l := (splitSign (s.dropWhile Text.isSpacing)).2)]
  simp only [List.forall_mem_append]
  refine ⟨fun c hc => Or.inl (List.mem_takeWhile_imp hc), fun c hc => ?_, fun c hc => ?_,
    fun c hc => Or.inl (List.all_eq_true.mp hafter c hc)⟩
  · rcases hsign with rfl | rfl | rfl
    · cases hc
    · exact Or.inr (Or.inl (List.mem_singleton.mp hc))
    · exact Or.inr (Or.inr (Or.inl (List.mem_singleton.mp hc)))
  · have hrow := List.mem_takeWhile_imp hc
    rw [Bool.or_eq_true, decide_eq_true_iff] at hrow
    exact Or.inr (Or.inr (Or.inr hrow.symm))

/-! ### Binary numbers -/

/-- No digit stands in a name. -/
theorem toLower_ne {body name : Text} (hdigit : ∃ c ∈ body, c.isDigit = true)
    (hname : name.any Char.isDigit = false) : Text.toLower body ≠ name := by
  rintro rfl
  obtain ⟨c, hc, hc'⟩ := hdigit
  have hmem : c.toLower ∈ Text.toLower body := List.mem_map_of_mem hc
  rw [toLower_eq_self (toNat_lt_of_isDigit hc')] at hmem
  exact List.any_eq_false.mp hname c hmem hc'

/-- All characters of a name are letters. -/
theorem lt_toNat_of_toLower_eq {body name : Text} (h : Text.toLower body = name)
    (hname : (name.all fun c => 65 ≤ c.toNat) = true) : ∀ c ∈ body, 32 < c.toNat := by
  intro c hc
  by_contra hle
  have hmem : c.toLower ∈ Text.toLower body := List.mem_map_of_mem hc
  rw [toLower_eq_self (by omega), h] at hmem
  have hletter := of_decide_eq_true (List.all_eq_true.mp hname c hmem)
  omega

theorem asciiFloat?_append {before sign body after : Text} {m : Scientific}
    (hbefore : ∀ c ∈ before, Text.isSpacing c = true) (hsign : IsSign sign)
    (hbody : magnitude? body = some m) (hafter : ∀ c ∈ after, Text.isSpacing c = true) :
    asciiFloat? (before ++ ((sign ++ body) ++ after)) =
      some (Binary64.ofScientific (sign = ['-']) m) := by
  obtain ⟨hvisible, hdigit, hunsigned⟩ := chars_of_magnitude?_eq_some hbody
  have hrow : ∀ c ∈ sign ++ body, IsVisible c :=
    List.forall_mem_append.mpr ⟨isVisible_of_isSign hsign, hvisible⟩
  have hne : sign ++ body ≠ [] := by
    obtain ⟨c, hc, -⟩ := hdigit
    exact List.ne_nil_of_mem (List.mem_append_right _ hc)
  have hline : ∀ c ∈ before ++ ((sign ++ body) ++ after), c ≠ '_' := by
    have hmargin {c : Char} (hc : Text.isSpacing c = true) : c ≠ '_' := by
      rintro rfl
      cases hc
    rw [List.forall_mem_append, List.forall_mem_append]
    exact ⟨fun c hc => hmargin (hbefore c hc), fun c hc => (hrow c hc).2,
      fun c hc => hmargin (hafter c hc)⟩
  have hfilter : (before ++ ((sign ++ body) ++ after)).filter (· != '_') =
      before ++ ((sign ++ body) ++ after) :=
    List.filter_eq_self.mpr fun c hc => bne_iff_ne.mpr (hline c hc)
  unfold asciiFloat?
  rw [if_pos (separatesDigits_of_not_mem (fun hmem => hline _ hmem rfl) _), hfilter,
    trim_append hbefore (fun c hc => isSpacing_eq_false (hrow c hc)) hne hafter,
    splitSign_append hsign hunsigned]
  dsimp only
  rw [if_neg, if_neg (toLower_ne hdigit rfl), hbody]
  · rfl
  · rw [Bool.or_eq_true, decide_eq_true_iff, decide_eq_true_iff, not_or]
    exact ⟨toLower_ne hdigit rfl, toLower_ne hdigit rfl⟩

theorem chars_of_asciiFloat?_eq_some {s : Text} {x : Binary64} (h : asciiFloat? s = some x) :
    ∀ c ∈ s, Text.isSpacing c = true ∨ 32 < c.toNat := by
  unfold asciiFloat? at h
  rw [Option.ite_none_right_eq_some] at h
  dsimp only at h
  obtain ⟨before, after, hs, hbefore, hafter⟩ :=
    exists_margins Text.isSpacing (s.filter (· != '_'))
  obtain ⟨sign, hsign, htrim⟩ := exists_sign (Text.trim Text.isSpacing (s.filter (· != '_')))
  have hbody : ∀ c ∈ (splitSign (Text.trim Text.isSpacing (s.filter (· != '_')))).2,
      32 < c.toNat := by
    obtain ⟨-, h⟩ := h
    split_ifs at h with hinfinite hnan
    · rw [Bool.or_eq_true, decide_eq_true_iff, decide_eq_true_iff] at hinfinite
      rcases hinfinite with hshort | hlong
      · exact lt_toNat_of_toLower_eq hshort rfl
      · exact lt_toNat_of_toLower_eq hlong rfl
    · exact lt_toNat_of_toLower_eq hnan rfl
    · obtain ⟨m, hm, -⟩ := Option.map_eq_some_iff.mp h
      exact fun c hc => ((chars_of_magnitude?_eq_some hm).1 c hc).1
  -- the low lines are dropped before anything else is looked at
  intro c hc
  by_cases hline : c = '_'
  · rw [hline]
    exact Or.inr (by decide)
  have hmem : c ∈ s.filter (· != '_') := List.mem_filter.mpr ⟨hc, bne_iff_ne.mpr hline⟩
  rw [hs, htrim, List.mem_append, List.mem_append, List.mem_append] at hmem
  rcases hmem with hmem | (hmem | hmem) | hmem
  · exact Or.inl (hbefore c hmem)
  · exact Or.inr (isVisible_of_isSign hsign c hmem).1
  · exact Or.inr (hbody c hmem)
  · exact Or.inl (hafter c hmem)

end QueryTemplate.Number.Numeral
