import QueryTemplate.Proofs.Template.Located

/-! Filling a template from a place in the middle of the arguments. The cursor moves on by one for
every question mark, whatever becomes of the block that it stands in, so of all arguments only those
from that place on count, as many as there are question marks. Nothing is asked of the template but
that no block holds two slots; there may be too few arguments. -/

namespace QueryTemplate.Template

open Segment Failure

/-- The arguments from a place on, so many of them at most. -/
def window (args : List Value) (p n : Nat) : List Value := (args.drop p).take n

/-- Every pair of braces that the scan for blocks finds holds one slot at most. -/
def HoldsOneAtMost (s : Text) : Prop := ∀ body, .block body ∈ Segment.blocks s → slotCount body ≤ 1

/-- The check for crowded blocks accepts these templates and no others, whatever their other braces
are. -/
theorem checkCrowding_eq_ok_iff {s : Text} : checkCrowding s = .ok () ↔ HoldsOneAtMost s := by
  rw [checkCrowding]
  split
  case h_1 segment hfind =>
    have hmem := List.mem_of_find?_eq_some hfind
    have hcrowded := List.find?_some hfind
    cases segment with
    | block body =>
      refine iff_of_false (fun h => by cases h) fun hone => ?_
      have hbody := hone body hmem
      simp only [body?, Option.any_some, decide_eq_true_eq] at hcrowded
      omega
    | _ => cases hcrowded
  case h_2 hfind =>
    refine iff_of_true rfl fun body hbody => ?_
    have hplain := List.find?_eq_none.mp hfind _ hbody
    simp only [body?, Option.any_some, decide_eq_true_eq] at hplain
    omega

instance (s : Text) : Decidable (HoldsOneAtMost s) := decidable_of_iff _ checkCrowding_eq_ok_iff

/-- The failure of a window that ends at a place, as the whole list reports it. The list misses an
argument at that place if the window misses one; but a place that fits no machine word has a failure
of its own. -/
def reported (place : Nat) (e : Failure) : Failure :=
  if e = .outOfRange "list" ∧ 2 ^ 63 ≤ place then .indexTooLarge else e

/-! ### The cursor -/

/-- Segments move the cursor by the number of their slots, if the blocks among them do. -/
theorem cursor_of_fillSegments {args : Arguments}
    {onBlock : Text → Int → Except Failure (Text × Int)} {segments : List Segment}
    (hblock : ∀ body, .block body ∈ segments → ∀ p t q, onBlock body p = .ok (t, q) →
      q = p + body.count '?')
    {p q : Int} {t : Text} (h : fillSegments args onBlock segments p = .ok (t, q)) :
    q = p + (segments.map slotsIn).sum := by
  induction segments generalizing p t with
  | nil =>
    cases h
    simp
  | cons segment rest ih =>
    have hrest := fun body hbody => hblock body (List.mem_cons_of_mem segment hbody)
    rw [List.map_cons, List.sum_cons, Nat.cast_add, ← Int.add_assoc]
    cases segment with
    | char c =>
      obtain ⟨⟨tail, final⟩, htail, h⟩ := bind_eq_ok_iff.mp h
      cases h
      rw [ih hrest htail, slotsIn, Nat.cast_zero, Int.add_zero]
    | slot run =>
      obtain ⟨head, -, h⟩ := bind_eq_ok_iff.mp h
      obtain ⟨⟨tail, final⟩, htail, h⟩ := bind_eq_ok_iff.mp h
      cases h
      rw [ih hrest htail, slotsIn, Nat.cast_one]
    | block body =>
      obtain ⟨⟨head, next⟩, hhead, h⟩ := bind_eq_ok_iff.mp h
      obtain ⟨⟨tail, final⟩, htail, h⟩ := bind_eq_ok_iff.mp h
      cases h
      rw [ih hrest htail, hblock body List.mem_cons_self p head next hhead, slotsIn]

/-- A block moves the cursor by one if it holds a slot, and not at all otherwise. -/
theorem cursor_of_fillBlock {args : Arguments} {body : Text} (hone : body.count '?' ≤ 1) {p q : Int}
    {t : Text} (h : fillBlock args body p = .ok (t, q)) : q = p + body.count '?' := by
  rw [fillBlock, slotCount_eq_count] at h
  split_ifs at h with hnone
  · cases h
    rw [hnone]
    simp
  · obtain ⟨v, -, h⟩ := bind_eq_ok_iff.mp h
    have hcount : body.count '?' = 1 := by omega
    split_ifs at h
    · cases h
      rw [hcount, Nat.cast_one]
    · have hinner := cursor_of_fillSegments
        (fun b hb => absurd hb (block_not_mem_slots body b)) h
      rwa [slots, sum_slotsIn_scan] at hinner

/-- A block of the template is found by the scan for blocks alone. -/
theorem count_le_one_of_mem_scan {s body : Text} {blocks : Bool}
    (hone : blocks = true → HoldsOneAtMost s) (h : .block body ∈ scan ⟨blocks, true⟩ s) :
    body.count '?' ≤ 1 := by
  cases blocks with
  | false => exact absurd h (block_not_mem_slots s body)
  | true =>
    rw [← slotCount_eq_count]
    exact hone rfl body ((block_mem_blocks_iff s body).mpr h)

/-! ### The window -/

/-- The same steps with the whole list and with a window of it that ends at a place: both succeed
with results that belong together, or both fail. -/
inductive Alike {α β : Type} (place : Nat) (Rel : α → β → Prop) :
    Except Failure α → Except Failure β → Prop
  | ok {a : α} {b : β} (h : Rel a b) : Alike place Rel (.ok a) (.ok b)
  | error (e : Failure) : Alike place Rel (.error (reported place e)) (.error e)

theorem Alike.bind {α β γ δ : Type} {place : Nat} {Rel : α → β → Prop} {Rel' : γ → δ → Prop}
    {x : Except Failure α} {y : Except Failure β} {f : α → Except Failure γ}
    {g : β → Except Failure δ} (h : Alike place Rel x y)
    (hnext : ∀ a b, Rel a b → Alike place Rel' (f a) (g b)) :
    Alike place Rel' (x >>= f) (y >>= g) := by
  cases h with
  | ok h => exact hnext _ _ h
  | error e => exact .error e

/-- What is found at an argument of the window, which is there. -/
def Found {α : Type} (size k : Nat) (a b : α) : Prop := a = b ∧ k < size

/-- The same text, with both cursors at the same argument of the window or at its end. -/
def Filled (p size k : Nat) (x y : Text × Int) : Prop :=
  x = (y.1, ((p + k : Nat) : Int)) ∧ y.2 = (k : Int) ∧ k ≤ size

theorem filled_self {p size k : Nat} (t : Text) (hk : k ≤ size) :
    Filled p size k (t, ((p + k : Nat) : Int)) (t, (k : Int)) :=
  ⟨rfl, rfl, hk⟩

theorem Alike.eq_error_iff {α β : Type} {place : Nat} {Rel : α → β → Prop} {x : Except Failure α}
    {y : Except Failure β} (h : Alike place Rel x y) (e : Failure) :
    x = .error e ↔ ∃ e', y = .error e' ∧ e = reported place e' := by
  cases h with
  | ok h => simp
  | error e' => simp [eq_comm]

section Filled

variable {place p size k : Nat} {x x' y : Except Failure (Text × Int)}

theorem Alike.eq_ok_iff (h : Alike place (Filled p size k) x y) (t : Text) :
    (∃ q, x = .ok (t, q)) ↔ ∃ q, y = .ok (t, q) := by
  cases h with
  | ok h =>
    obtain ⟨rfl, -, -⟩ := h
    simp [Prod.ext_iff]
  | error e => simp

/-- The window decides what the list gives. -/
theorem Alike.unique (h : Alike place (Filled p size k) x y)
    (h' : Alike place (Filled p size k) x' y) : x' = x := by
  cases h with
  | ok h =>
    obtain ⟨rfl, -, -⟩ := h
    cases h' with
    | ok h' => rw [h'.1]
  | error e =>
    cases h'
    rfl

theorem Alike.append (head : Text) (h : Alike place (Filled p size k) x y) :
    Alike place (Filled p size k) (x >>= fun r => pure (head ++ r.1, r.2))
      (y >>= fun r => pure (head ++ r.1, r.2)) := by
  apply h.bind
  rintro _ ⟨t, _⟩ ⟨rfl, rfl, hk⟩
  exact .ok (filled_self (head ++ t) hk)

end Filled

section Window

variable {args : List Value} {p n k : Nat}

theorem noItem_natCast (i : Nat) : Arguments.noItem "list" (i : Int) =
    if 2 ^ 63 ≤ i then .indexTooLarge else .outOfRange "list" := by
  have hlow : ¬(i : Int) < -9223372036854775808 := by omega
  simp [Arguments.noItem, hlow]

theorem kind_ne_index_of_render_eq_error {tag : Tag} {v : Value} {e : Failure}
    (h : tag.render v = .error e) : e.kind ≠ .index := by
  intro hindex
  rcases Tag.render_eq_error h with (hkind | ⟨rfl, -⟩) | ⟨-, -, rfl⟩
  · rw [hindex] at hkind
    exact absurd hkind (by decide)
  · cases hindex
  · cases hindex

/-- Only a missing argument is reported in another way. -/
theorem Alike.error_of_kind_ne_index {α β : Type} {place : Nat} {Rel : α → β → Prop} {e : Failure}
    (h : e.kind ≠ .index) : Alike place Rel (.error e) (.error e) := by
  have hreported : reported place e = e := by
    apply if_neg
    rintro ⟨rfl, -⟩
    exact h rfl
  have halike : Alike place Rel (.error (reported place e)) (.error e) := .error e
  rwa [hreported] at halike

/-- At a place of the window stands the argument of the list, or none stands in either. -/
theorem alike_ofList (hk : k ≤ (window args p n).length) (hn : k < n) :
    Alike (p + (window args p n).length) (Found (window args p n).length k)
      (Arguments.ofList args ((p + k : Nat) : Int))
      (Arguments.ofList (window args p n) (k : Int)) := by
  have hget : (window args p n)[k]? = args[p + k]? := by
    rw [window, List.getElem?_take_of_lt hn, List.getElem?_drop]
  rw [ofList_natCast, ofList_natCast, hget]
  cases hv : args[p + k]? with
  | some v =>
    rw [hv, List.getElem?_eq_some_iff] at hget
    obtain ⟨hlt, -⟩ := hget
    exact .ok ⟨rfl, hlt⟩
  | none =>
    have hend : (window args p n).length = k := by
      rw [hv, List.getElem?_eq_none_iff] at hget
      omega
    have hreported : Arguments.noItem "list" ((p + k : Nat) : Int) =
        reported (p + k) (Arguments.noItem "list" (k : Int)) := by
      rw [noItem_natCast, noItem_natCast, reported]
      by_cases hinner : 2 ^ 63 ≤ k
      · rw [if_pos hinner, if_pos (Nat.le_add_left_of_le hinner), if_neg]
        exact fun h => by cases h.1
      · rw [if_neg hinner]
        simp only [true_and]
    rw [hend]
    simp only [hreported]
    exact .error _

theorem alike_fillSlot (run : Text) (hk : k ≤ (window args p n).length) (hn : k < n) :
    Alike (p + (window args p n).length) (Found (window args p n).length k)
      (fillSlot (.ofList args) run ((p + k : Nat) : Int))
      (fillSlot (.ofList (window args p n)) run (k : Int)) := by
  rw [fillSlot, fillSlot]
  cases Tag.ofRun? run with
  | none => exact .error_of_kind_ne_index fun h => by cases h
  | some tag =>
    apply (alike_ofList hk hn).bind
    rintro v _ ⟨rfl, hlt⟩
    cases hrender : tag.render v with
    | ok head => exact .ok ⟨rfl, hlt⟩
    | error e => exact .error_of_kind_ne_index (kind_ne_index_of_render_eq_error hrender)

/-- Segments give the same in the window, if the blocks among them do. -/
theorem alike_fillSegments {onBlock onBlock' : Text → Int → Except Failure (Text × Int)}
    {segments : List Segment}
    (hblock : ∀ body, .block body ∈ segments → ∀ k, k ≤ (window args p n).length →
      k + body.count '?' ≤ n → Alike (p + (window args p n).length)
        (Filled p (window args p n).length (k + body.count '?'))
        (onBlock body ((p + k : Nat) : Int)) (onBlock' body (k : Int)))
    (hk : k ≤ (window args p n).length) (hn : k + (segments.map slotsIn).sum ≤ n) :
    Alike (p + (window args p n).length)
      (Filled p (window args p n).length (k + (segments.map slotsIn).sum))
      (fillSegments (.ofList args) onBlock segments ((p + k : Nat) : Int))
      (fillSegments (.ofList (window args p n)) onBlock' segments (k : Int)) := by
  induction segments generalizing k with
  | nil => exact .ok (filled_self [] hk)
  | cons segment rest ih =>
    have hrest := fun body hbody => hblock body (List.mem_cons_of_mem segment hbody)
    rw [List.map_cons, List.sum_cons, ← Nat.add_assoc] at hn ⊢
    cases segment with
    | char c =>
      rw [slotsIn, Nat.add_zero] at hn ⊢
      exact (ih hrest hk hn).append [c]
    | slot run =>
      rw [slotsIn] at hn ⊢
      rw [fillSegments, fillSegments]
      apply (alike_fillSlot run hk (by omega)).bind
      rintro head _ ⟨rfl, hlt⟩
      exact (ih hrest hlt hn).append head
    | block body =>
      rw [slotsIn] at hn ⊢
      rw [fillSegments, fillSegments]
      apply (hblock body List.mem_cons_self k hk (by omega)).bind
      rintro _ ⟨head, _⟩ ⟨rfl, rfl, hnext⟩
      exact (ih hrest hnext hn).append head

theorem alike_fillBlock {body : Text} (hone : body.count '?' ≤ 1)
    (hk : k ≤ (window args p n).length) (hn : k + body.count '?' ≤ n) :
    Alike (p + (window args p n).length) (Filled p (window args p n).length (k + body.count '?'))
      (fillBlock (.ofList args) body ((p + k : Nat) : Int))
      (fillBlock (.ofList (window args p n)) body (k : Int)) := by
  rw [fillBlock, fillBlock, slotCount_eq_count]
  by_cases hnone : body.count '?' = 0
  · rw [if_pos hnone, if_pos hnone, hnone]
    exact .ok (filled_self _ hk)
  · have hcount : body.count '?' = 1 := by omega
    rw [if_neg hnone, if_neg hnone]
    apply (alike_ofList hk (by omega)).bind
    rintro v _ ⟨rfl, hlt⟩
    cases v.isSkip with
    | true =>
      rw [hcount]
      exact .ok (filled_self [] hlt)
    | false =>
      rw [← sum_slotsIn_scan false body] at hn ⊢
      exact alike_fillSegments (fun b hb => absurd hb (block_not_mem_slots body b)) hk hn

theorem alike_substitute {s : Text} {blocks : Bool} (hone : blocks = true → HoldsOneAtMost s)
    (args : List Value) (p : Nat) :
    Alike (p + (window args p (s.count '?')).length)
      (Filled p (window args p (s.count '?')).length (s.count '?'))
      (substitute s (.ofList args) p blocks)
      (substitute s (.ofList (window args p (s.count '?'))) 0 blocks) := by
  have hblock : ∀ body, .block body ∈ scan ⟨blocks, true⟩ s →
      ∀ k, k ≤ (window args p (s.count '?')).length → k + body.count '?' ≤ s.count '?' →
        Alike (p + (window args p (s.count '?')).length)
          (Filled p (window args p (s.count '?')).length (k + body.count '?'))
          (fillBlock (.ofList args) body ((p + k : Nat) : Int))
          (fillBlock (.ofList (window args p (s.count '?'))) body (k : Int)) :=
    fun body hbody k hk hn => alike_fillBlock (count_le_one_of_mem_scan hone hbody) hk hn
  have hsum : 0 + ((scan ⟨blocks, true⟩ s).map slotsIn).sum = s.count '?' := by
    rw [sum_slotsIn_scan, Nat.zero_add]
  have hfill := alike_fillSegments hblock (Nat.zero_le _) hsum.le
  rw [hsum] at hfill
  exact hfill

end Window

/-! ### What the cursor and the window say of a result -/

/-- The cursor of a template filled from a place is known beforehand, and the rest of the result is
that of the window. -/
structure IsWindowed (s : Text) (args : List Value) (p : Int) (blocks : Bool) : Prop where
  /-- The cursor is moved on by the number of question marks. -/
  cursor : ∀ t q, substitute s (.ofList args) p blocks = .ok (t, q) → q = p + s.count '?'
  /-- The template is filled from the list just where it is filled from the window, with the same
  text. -/
  filled : 0 ≤ p → ∀ t, (∃ q, substitute s (.ofList args) p blocks = .ok (t, q)) ↔
    ∃ q, substitute s (.ofList (window args p.toNat (s.count '?'))) 0 blocks = .ok (t, q)
  /-- Otherwise both fail, for the same reason. -/
  failed : 0 ≤ p → ∀ e, substitute s (.ofList args) p blocks = .error e ↔
    ∃ e', substitute s (.ofList (window args p.toNat (s.count '?'))) 0 blocks = .error e' ∧
      e = reported (p.toNat + (window args p.toNat (s.count '?')).length) e'
  /-- No argument outside the window counts. -/
  confined : 0 ≤ p → ∀ args',
    window args' p.toNat (s.count '?') = window args p.toNat (s.count '?') →
      substitute s (.ofList args') p blocks = substitute s (.ofList args) p blocks

theorem isWindowed_of_holdsOneAtMost (s : Text) (args : List Value) (p : Int) (blocks : Bool)
    (hone : blocks = true → HoldsOneAtMost s) : IsWindowed s args p blocks where
  cursor := by
    intro t q h
    rw [← sum_slotsIn_scan blocks s]
    apply cursor_of_fillSegments _ h
    intro body hbody _ _ _
    exact cursor_of_fillBlock (count_le_one_of_mem_scan hone hbody)
  filled := by
    intro hp t
    have halike := alike_substitute hone args p.toNat
    rw [Int.toNat_of_nonneg hp] at halike
    exact halike.eq_ok_iff t
  failed := by
    intro hp e
    have halike := alike_substitute hone args p.toNat
    rw [Int.toNat_of_nonneg hp] at halike
    exact halike.eq_error_iff e
  confined := by
    intro hp args' hwindow
    have halike := alike_substitute hone args p.toNat
    have halike' := alike_substitute hone args' p.toNat
    rw [hwindow] at halike'
    rw [Int.toNat_of_nonneg hp] at halike halike'
    exact halike.unique halike'

/-- A block that is copied, one with a slot, a slot outside, and a brace that stays open before
another block. -/
def openBrace : Text := "{a}{b ?d}?d \x7b{?}".toList

theorem isWindowed_openBrace :
    (true = true → HoldsOneAtMost openBrace) ∧
      IsWindowed openBrace [.null, .skip, .int 5, .bool true, .null] 1 true ∧
      substitute openBrace (.ofList [.null, .skip, .int 5, .bool true, .null]) 1 true =
        .ok ("{a}5 \x7b1".toList, 4) :=
  ⟨by decide +kernel, isWindowed_of_holdsOneAtMost _ _ _ _ (by decide +kernel),
    by decide +kernel⟩

/-- Past all machine words the list fails in a way that its window, which is empty, does not. -/
theorem exists_other_failure_beyond_words :
    ¬∀ (s : Text) (args : List Value) (p : Int) (blocks : Bool),
      (blocks = true → HoldsOneAtMost s) → 0 ≤ p → ∀ e,
        substitute s (.ofList args) p blocks = .error e →
          substitute s (.ofList (window args p.toNat (s.count '?'))) 0 blocks = .error e := by
  intro h
  have hlist : substitute "?".toList (.ofList []) 9223372036854775808 true =
      .error .indexTooLarge := by decide +kernel
  have hwindow := h "?".toList [] 9223372036854775808 true (by decide +kernel) (by decide) _ hlist
  revert hwindow
  decide +kernel

end QueryTemplate.Template
