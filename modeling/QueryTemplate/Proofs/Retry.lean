import Mathlib.Tactic
import QueryTemplate.Retry

/-! Rows of attempts. Every attempt starts where the one before it stopped, whatever that gave. So a
row of attempts is a row of what each of them would give at its place, cut after the first one that
does not call for another. A call gives what the last attempt of its row gave, and between two
attempts it warns and pauses once. -/

namespace QueryTemplate.Retry

variable {σ τ ρ α δ : Type}

def failsTransiently : Except Failure α → Bool
  | .error failure => failure.isTransient
  | .ok _ => false

theorem exists_eq_error_of_failsTransiently {outcome : Except Failure α}
    (h : failsTransiently outcome = true) :
    ∃ failure, outcome = .error failure ∧ failure.isTransient = true := by
  cases outcome with
  | ok a => cases h
  | error failure => exact ⟨failure, rfl, h⟩

/-! ### Rows of attempts -/

/-- What the attempt with this number gives, if it is made. -/
def nth (attempt : σ → τ × σ) (state : σ) (number : Nat) : τ :=
  (attempt ((fun before => (attempt before).2)^[number] state)).1

/-- The elements of a list up to the first that does not call for another, and that one too. -/
def upTo (again : τ → Bool) (all : List τ) : List τ :=
  all.takeWhile again ++ (all.dropWhile again).take 1

theorem upTo_cons (again : τ → Bool) (a : τ) (rest : List τ) :
    upTo again (a :: rest) = a :: if again a then upTo again rest else [] := by
  cases h : again a <;> simp [upTo, h]

theorem upTo_map (again : τ → Bool) (f : ρ → τ) (all : List ρ) :
    upTo again (all.map f) = (upTo (again ∘ f) all).map f := by
  rw [upTo, upTo, List.takeWhile_map, List.dropWhile_map, ← List.map_take, List.map_append]

theorem upTo_ne_nil (again : τ → Bool) {all : List τ} (h : all ≠ []) : upTo again all ≠ [] := by
  cases all with
  | nil => exact absurd rfl h
  | cons a rest =>
    rw [upTo_cons]
    exact List.cons_ne_nil _ _

/-- Whether another attempt is called for matters for the attempts that are made only. -/
theorem upTo_congr {again again' : τ → Bool} {all : List τ}
    (h : ∀ a ∈ upTo again all, again' a = again a) : upTo again' all = upTo again all := by
  induction all with
  | nil => rfl
  | cons a rest ih =>
    rw [upTo_cons] at h ⊢
    rw [List.forall_mem_cons] at h
    rw [upTo_cons, h.1]
    cases hagain : again a with
    | false => rfl
    | true =>
      rw [hagain, if_pos rfl] at h
      rw [if_pos rfl, if_pos rfl, ih h.2]

/-- Of numbered attempts those up to some last one are made: the earlier ones called for another,
and the last one did not or was the last allowed. -/
theorem exists_upTo_range_eq (again : Nat → Bool) (tries : Nat) :
    ∃ last ≤ tries, upTo again (List.range (tries + 1)) = List.range (last + 1) ∧
      (∀ number < last, again number = true) ∧ (last = tries ∨ again last = false) := by
  induction tries generalizing again with
  | zero =>
    refine ⟨0, le_rfl, ?_, fun number h => absurd h (Nat.not_lt_zero number), Or.inl rfl⟩
    rw [List.range_succ_eq_map, upTo_cons]
    split_ifs <;> rfl
  | succ tries ih =>
    rw [List.range_succ_eq_map, upTo_cons, upTo_map]
    cases hfirst : again 0 with
    | false =>
      exact ⟨0, Nat.zero_le _, rfl, fun number h => absurd h (Nat.not_lt_zero number),
        Or.inr hfirst⟩
    | true =>
      obtain ⟨last, hle, hmade, hbefore, hlast⟩ := ih (again ∘ Nat.succ)
      refine ⟨last + 1, Nat.succ_le_succ hle, ?_, ?_, hlast.imp_left (congrArg Nat.succ)⟩
      · rw [if_pos rfl, hmade, ← List.range_succ_eq_map]
      · intro number hnumber
        cases number with
        | zero => exact hfirst
        | succ number => exact hbefore number (Nat.lt_of_succ_lt_succ hnumber)

theorem getLast?_map_range (f : Nat → τ) (last : Nat) :
    ((List.range (last + 1)).map f).getLast? = some (f last) := by
  rw [List.range_succ, List.map_append, List.map_singleton, List.getLast?_concat]

/-! ### What happens in a call -/

section Narration

variable (policy : Policy δ) (caller : String) (result : τ → Except Failure α)

/-- What stands between the attempt with this number, counted from one, and the next attempt. -/
def pause (number : Nat) : Except Failure α → List (Event τ δ)
  | .error failure =>
    [.warned (warning caller number policy.tries failure), .slept policy.delay]
  | .ok _ => []

/-- What happens in a row of attempts, numbered from the given one. -/
def narrate (number : Nat) : List τ → List (Event τ δ)
  | [] => []
  | [last] => [.attempted last]
  | made :: rest =>
    .attempted made :: (pause policy caller number (result made) ++ narrate (number + 1) rest)

theorem narrate_cons (number : Nat) (made : τ) {rest : List τ} (h : rest ≠ []) :
    narrate policy caller result number (made :: rest) =
      .attempted made :: (pause policy caller number (result made) ++
        narrate policy caller result (number + 1) rest) := by
  cases rest with
  | nil => exact absurd rfl h
  | cons next rest => rfl

/-- All attempts but the last are followed by a pause. -/
theorem narrate_map_range (number last : Nat) (f : Nat → τ) :
    narrate policy caller result number ((List.range (last + 1)).map f) =
      (List.range last).flatMap (fun place => .attempted (f place) ::
        pause policy caller (number + place) (result (f place))) ++ [.attempted (f last)] := by
  induction last generalizing number f with
  | zero => rfl
  | succ last ih =>
    have hrest : ((List.range (last + 1)).map (f ∘ Nat.succ)) ≠ [] := by simp
    have hplace (place : Nat) : number + 1 + place = number + place.succ := by omega
    rw [List.range_succ_eq_map, List.map_cons, List.map_map, narrate_cons _ _ _ _ _ hrest, ih,
      List.range_succ_eq_map, List.flatMap_cons, List.flatMap_map]
    simp only [hplace, Function.comp_apply, Nat.add_zero, List.cons_append, List.append_assoc]

end Narration

section Run

variable (policy : Policy δ) {sleep : δ → Except Failure Unit} (caller : String)
  (attempt : σ → τ × σ) (result : τ → Except Failure α)

/-! One attempt of a call: it ends the call, or is followed by a pause, or by one that fails. -/

section Step

variable {left : Nat} (state : σ)

theorem runFrom_succ_of_last
    (hlast : left = 0 ∨ failsTransiently (result (attempt state).1) = false) :
    runFrom policy sleep caller attempt result (left + 1) state =
      ⟨[.attempted (attempt state).1], some (result (attempt state).1)⟩ := by
  rw [runFrom]
  dsimp only
  split
  · rename_i a hresult
    rw [hresult]
  · rename_i failure hresult
    have hstop : (failure.isTransient && left != 0) = false := by
      rcases hlast with rfl | htransient
      · exact Bool.and_false _
      · rw [hresult] at htransient
        rw [show failure.isTransient = false from htransient, Bool.false_and]
    rw [hstop, hresult]
    rfl

section Again

variable {failure : Failure} (hleft : left ≠ 0)
  (hresult : result (attempt state).1 = .error failure) (htransient : failure.isTransient = true)

include hleft hresult htransient

theorem runFrom_succ_of_again (hwait : policy.wait sleep = .ok ()) :
    runFrom policy sleep caller attempt result (left + 1) state =
      (runFrom policy sleep caller attempt result left (attempt state).2).after
        (.attempted (attempt state).1 ::
          pause policy caller (policy.tries.toNat - left) (result (attempt state).1)) := by
  have hagain : (failure.isTransient && left != 0) = true := by
    rw [htransient, Bool.true_and, bne_iff_ne]
    exact hleft
  simp only [runFrom, hresult, hagain, if_true, hwait, pause]

end Again

end Step

/-- The row of attempts that a call makes if it can go on to another. -/
def made (state : σ) : List τ :=
  upTo (failsTransiently ∘ result) ((List.range policy.tries.toNat).map (nth attempt state))

theorem runFrom_eq (hwait : policy.wait sleep = .ok ()) {before left : Nat}
    (hleft : before + left = policy.tries.toNat) (state : σ) :
    let made := upTo (failsTransiently ∘ result) ((List.range left).map (nth attempt state))
    runFrom policy sleep caller attempt result left state =
      ⟨narrate policy caller result (before + 1) made, made.getLast?.map result⟩ := by
  induction left generalizing before state with
  | zero => rfl
  | succ left ih =>
    have hlater : nth attempt state ∘ Nat.succ = nth attempt (attempt state).2 := rfl
    have hfirst : nth attempt state 0 = (attempt state).1 := rfl
    rw [List.range_succ_eq_map, List.map_cons, List.map_map, hlater, hfirst, upTo_cons]
    by_cases hagain : failsTransiently (result (attempt state).1) = true ∧ left ≠ 0
    · obtain ⟨htransient, hpositive⟩ := hagain
      obtain ⟨failure, hresult, hfailure⟩ := exists_eq_error_of_failsTransiently htransient
      have hbefore : before + 1 + left = policy.tries.toNat := by omega
      have hne : upTo (failsTransiently ∘ result)
          ((List.range left).map (nth attempt (attempt state).2)) ≠ [] :=
        upTo_ne_nil _ (by simpa using hpositive)
      rw [Function.comp_apply, if_pos htransient,
        runFrom_succ_of_again policy caller attempt result state hpositive hresult hfailure
          hwait, ih hbefore, show policy.tries.toNat - left = before + 1 by omega]
      dsimp only [Report.after]
      rw [narrate_cons _ _ _ _ _ hne, List.getLast?_cons_of_ne_nil hne, List.cons_append]
    · have hlast : left = 0 ∨ failsTransiently (result (attempt state).1) = false := by
        rw [not_and_or, Bool.not_eq_true, not_not] at hagain
        exact hagain.symm
      have hrest : (if (failsTransiently ∘ result) (attempt state).1 = true then
          upTo (failsTransiently ∘ result)
            ((List.range left).map (nth attempt (attempt state).2)) else []) = [] := by
        rcases hlast with rfl | hstop
        · split_ifs <;> rfl
        · exact if_neg (by simp [hstop])
      rw [hrest, runFrom_succ_of_last policy caller attempt result state hlast]
      rfl

/-- A call is told by its row of attempts, if it can go on to another. -/
theorem run_eq (hwait : policy.wait sleep = .ok ()) (state : σ) :
    run policy sleep caller attempt result state =
      ⟨narrate policy caller result 1 (made policy attempt result state),
        (made policy attempt result state).getLast?.map result⟩ :=
  runFrom_eq policy caller attempt result hwait (Nat.zero_add _) state

theorem filterMap_attempt?_narrate (number : Nat) (all : List τ) :
    (narrate policy caller result number all).filterMap Event.attempt? = all := by
  have hpause (number : Nat) (outcome : Except Failure α) :
      (pause (τ := τ) policy caller number outcome).filterMap Event.attempt? = [] := by
    cases outcome <;> rfl
  induction all generalizing number with
  | nil => rfl
  | cons made rest ih =>
    cases rest with
    | nil => rfl
    | cons next rest =>
      simp only [narrate, List.filterMap_cons, Event.attempt?, List.filterMap_append, hpause, ih,
        List.nil_append]

end Run

/-! ### Calls of a function -/

section Call

variable {ι : Type} {policy : Policy δ} {caller : String} {args : ι}
  {outcomes : Nat → Except Failure α}

variable (policy caller args) (sleep : δ → Except Failure Unit)
  (function : ι → σ → Except Failure α × σ) (state : σ)

end Call

/-- Nothing can be slept for less than no time. -/
example :
    let sleep (delay : Int) : Except Failure Unit :=
      if delay < 0 then .error (.statement .value "negative".toList) else .ok ()
    (call ⟨3, -1⟩ sleep "job" (scripted 0) ()
      [.error (.statement .operational "gone away".toList)]).outcome? =
        some (.error (.statement .value "negative".toList)) := by decide +kernel

end QueryTemplate.Retry
