import QueryTemplate.Connection.Step
import QueryTemplate.Proofs.Retry
import QueryTemplate.Proofs.Template.Outcome

/-! What a call of a session comes to. An attempt runs on what the attempts before it left of the
script, whether or not they were recorded. Recording it may replace what it gives by the failure of
the store, which never calls for another attempt. A template that is not filled shows nothing and
fails once: no failure of the compiler is one of the connection. -/

namespace QueryTemplate

open Failure Template

/-- The outcome of the statement with this number. Those after the last of a script give no rows. -/
def outcomeAt (script : List Outcome) (number : Nat) : Outcome := script[number]?.getD .done

theorem headD_drop (script : List Outcome) (number : Nat) :
    (script.drop number).headD .done = outcomeAt script number := by
  rw [List.headD_eq_head?_getD, List.head?_drop, outcomeAt]

theorem iterate_tail (script : List Outcome) (number : Nat) :
    List.tail^[number] script = script.drop number := by
  induction number with
  | zero => rfl
  | succ number ih => rw [Function.iterate_succ_apply', ih, List.tail_drop]

/-- A call of a method can go on to another attempt, whatever has failed. -/
theorem Method.wait_eq_ok {α : Type} (method : Method α) :
    (⟨method.tries, Retry.standardDelay⟩ : Retry.Policy Number.Binary64).wait (fun _ => .ok ()) =
      .ok () :=
  Retry.Policy.wait_of_isWritable ⟨method.tries, Retry.standardDelay⟩ method.isWritable_tries _

/-! ### Failures of the compiler -/

/-- The kind of a failure that the compiler reports: one of the template, or one of a value. -/
def Failure.Kind.isOfCompiler (kind : Kind) : Bool :=
  kind.isA .template || kind = .value || kind = .overflow || kind = .type

theorem isOfCompiler_of_isA_template {kind : Kind} (h : kind.isA .template = true) :
    kind.isOfCompiler = true := by
  rw [Kind.isOfCompiler, h]
  rfl

theorem isOfCompiler_of_compile_eq_error {s : Text} {args : List Value} {e : Failure}
    (h : compile s args = .error e) : e.kind.isOfCompiler = true := by
  cases hvalid : validate s args.length with
  | error e' =>
    rw [compile, hvalid] at h
    rw [← Except.error.inj h]
    exact isOfCompiler_of_isA_template (isA_template_of_validate_eq_error hvalid)
  | ok _ =>
    rcases exists_render_of_compile_eq_error hvalid h with ⟨run, rfl⟩ | ⟨tag, v, -, hrender⟩
    · rfl
    · rcases Tag.render_eq_error hrender with (hkind | ⟨rfl, -⟩) | ⟨-, -, rfl⟩
      · exact isOfCompiler_of_isA_template hkind
      · rfl
      · rfl

theorem isOfCompiler_of_compileOf_eq_error {s : Text} {args : Value} {e : Failure}
    (h : compileOf (.text s) args = .error e) : e.kind.isOfCompiler = true := by
  rcases bind_eq_error_iff.mp h with h | ⟨items, -, h⟩
  · cases args <;> cases h <;> rfl
  · exact isOfCompiler_of_compile_eq_error h

/-- The compiler never reports a failure of the connection. -/
theorem isTransient_eq_false_of_compileOf_eq_error {s : Text} {args : Value} {e : Failure}
    (h : compileOf (.text s) args = .error e) : e.isTransient = false := by
  have hkind := isOfCompiler_of_compileOf_eq_error h
  rw [isTransient]
  revert hkind
  cases e.kind <;> decide

theorem isA_general_of_compileOf_eq_error {s : Text} {args : Value} {e : Failure}
    (h : compileOf (.text s) args = .error e) : e.kind.isA .general = true := by
  have hkind := isOfCompiler_of_compileOf_eq_error h
  revert hkind
  cases e.kind <;> decide

/-! ### Attempts -/

variable {α : Type}

namespace Attempt

variable (method : Method α) (debug : Bool) (template args : Value)

/-- One attempt that is not recorded, and what it leaves of the script. -/
def next (script : List Outcome) : Attempt α × List Outcome :=
  (run method debug template args script, (run method debug template args script).script)

/-- The attempt with this number that is not recorded. -/
def ran (script : List Outcome) (number : Nat) : Attempt α :=
  Retry.nth (next method debug template args) script number

theorem rows_run (script : List Outcome) : (run method debug template args script).rows = [] := by
  unfold run
  split <;> rfl

theorem rows_ran (script : List Outcome) (number : Nat) :
    (ran method debug template args script number).rows = [] := rows_run ..

end Attempt

namespace Session

section Settle

variable (session : Session) (installation : Installation) (method : Method α) (template : Value)
  (n : Nat) (trail : Audit.Trail) (ran : Attempt α)

@[simp]
theorem sql_settle : (session.settle installation method template n trail ran).sql = ran.sql := by
  unfold settle Attempt.recorded
  split_ifs
  · split <;> rfl
  · rfl

@[simp]
theorem trace_settle :
    (session.settle installation method template n trail ran).trace = ran.trace := by
  unfold settle Attempt.recorded
  split_ifs
  · split <;> rfl
  · rfl

@[simp]
theorem script_settle :
    (session.settle installation method template n trail ran).script = ran.script := by
  unfold settle Attempt.recorded
  split_ifs
  · split <;> rfl
  · rfl

/-- The row of an attempt is refused, with this failure. -/
structure Refuses (e : Failure) : Prop where
  audited : session.audited = true
  isRecorded : ran.isRecorded = true
  write : installation.store.write trail (ran.row method.name template n) = .error e

variable {session installation method template n trail ran}

theorem result_settle_of_refuses {e : Failure}
    (h : session.Refuses installation method template n trail ran e) :
    (session.settle installation method template n trail ran).result = .error e := by
  rw [settle, h.audited, h.isRecorded, Attempt.recorded, h.write]
  rfl

theorem rows_settle_of_refuses {e : Failure}
    (h : session.Refuses installation method template n trail ran e) :
    (session.settle installation method template n trail ran).rows = ran.rows := by
  rw [settle, h.audited, h.isRecorded, Attempt.recorded, h.write]
  rfl

theorem result_settle_of_not_refuses
    (h : ∀ e, ¬session.Refuses installation method template n trail ran e) :
    (session.settle installation method template n trail ran).result = ran.result := by
  unfold settle Attempt.recorded
  split_ifs with hrecorded
  · rw [Bool.and_eq_true] at hrecorded
    split
    · rfl
    · rename_i e hwrite
      exact absurd ⟨hrecorded.1, hrecorded.2, hwrite⟩ (h e)
  · rfl

/-- An attempt calls for another only if its row is written, or none is: a store fails in no way
that another attempt may not meet. -/
theorem not_refuses_of_failsTransiently
    (h : Retry.failsTransiently (session.settle installation method template n trail ran).result =
      true) (e : Failure) : ¬session.Refuses installation method template n trail ran e := by
  intro hrefuses
  rw [result_settle_of_refuses hrefuses] at h
  have hsteady := installation.store.steady_write _ _ e hrefuses.write
  exact Bool.false_ne_true (hsteady.symm.trans h)

end Settle

/-! ### Rows of attempts -/

section Scenes

variable (session : Session) (installation : Installation) (method : Method α)
  (template args : Value) (n : Nat) (script : List Outcome)

/-- The trail that the attempt with this number finds. -/
def trailAt (number : Nat) : Audit.Trail :=
  ((fun scene => (session.attempt installation method template args n scene).2)^[number]
    (session.trail, script)).1

/-- The attempt with this number. -/
def made (number : Nat) : Attempt α :=
  Retry.nth (session.attempt installation method template args n) (session.trail, script) number

theorem made_eq (number : Nat) :
    session.made installation method template args n script number =
      session.settle installation method template n
        (session.trailAt installation method template args n script number)
        (Attempt.ran method session.debug template args script number) := by
  have hscript (number : Nat) :
      ((fun scene => (session.attempt installation method template args n scene).2)^[number]
        (session.trail, script)).2 =
      (fun before => (Attempt.next method session.debug template args before).2)^[number]
        script := by
    induction number with
    | zero => rfl
    | succ number ih =>
      rw [Function.iterate_succ_apply', Function.iterate_succ_apply', ← ih]
      exact script_settle ..
  rw [made, Retry.nth, attempt, hscript]
  rfl

theorem trailAt_succ (number : Nat) :
    session.trailAt installation method template args n script (number + 1) =
      session.trailAt installation method template args n script number ++
        (session.made installation method template args n script number).rows := by
  rw [trailAt, Function.iterate_succ_apply']
  rfl

theorem trailAt_eq (number : Nat) :
    session.trailAt installation method template args n script number = session.trail ++
      (List.range number).flatMap fun place =>
        (session.made installation method template args n script place).rows := by
  induction number with
  | zero => exact (List.append_nil _).symm
  | succ number ih =>
    rw [trailAt_succ, ih, List.range_succ, List.flatMap_append, List.flatMap_singleton,
      List.append_assoc]

/-- What is seen between an attempt and the next one. -/
def pause (caller : String) (tries number : Nat) : Except Failure α → Trace
  | .error failure =>
    [.logged ⟨.retry, Retry.warning caller number tries failure⟩, .slept Retry.standardDelay]
  | .ok _ => []

theorem flatMap_seen_pause (caller : String) (tries number : Nat) (result : Except Failure α) :
    (Retry.pause (τ := Attempt α) ⟨tries, Retry.standardDelay⟩ caller number result).flatMap
      Attempt.seen = pause caller tries number result := by
  cases result <;> rfl

/-- The places of the attempts of a call. -/
def places : List Nat :=
  Retry.upTo (fun number => Retry.failsTransiently
    (session.made installation method template args n script number).result)
    (List.range method.tries)

theorem report_eq : session.report installation method template args n script =
    ⟨Retry.narrate ⟨method.tries, Retry.standardDelay⟩ method.name Attempt.result 1
      ((session.places installation method template args n script).map
        (session.made installation method template args n script)),
      ((session.places installation method template args n script).map
        (session.made installation method template args n script)).getLast?.map
          Attempt.result⟩ := by
  have hmade := Retry.upTo_map (Retry.failsTransiently ∘ Attempt.result)
    (session.made installation method template args n script) (List.range method.tries)
  rw [places]
  exact hmade ▸ Retry.run_eq ⟨method.tries, Retry.standardDelay⟩ method.name
    (session.attempt installation method template args n) Attempt.result
    method.wait_eq_ok (session.trail, script)

theorem attempts_report : (session.report installation method template args n script).attempts =
    (session.places installation method template args n script).map
      (session.made installation method template args n script) := by
  rw [report_eq]
  exact Retry.filterMap_attempt?_narrate ..

/-- What a call comes to that makes its attempts up to the one with this number: the earlier ones
called for another, and the last one did not or was the last allowed. -/
structure IsCall (last : Nat) : Prop where
  last_lt : last < method.tries
  places : session.places installation method template args n script = List.range (last + 1)
  again : ∀ number < last, Retry.failsTransiently
    (session.made installation method template args n script number).result = true
  ended : last + 1 = method.tries ∨ Retry.failsTransiently
    (session.made installation method template args n script last).result = false
  call : session.call installation method template args script =
    (some (session.made installation method template args n script last).result,
      { session with
        lastSql := (session.made installation method template args n script last).sql
        trail := session.trailAt installation method template args n script (last + 1) },
      (List.range last).flatMap (fun number =>
        (session.made installation method template args n script number).trace ++
          pause method.name method.tries (number + 1)
            (session.made installation method template args n script number).result) ++
        (session.made installation method template args n script last).trace)

variable {args n}

theorem exists_isCall (hargs : argCount args = .ok n) (htries : 0 < method.tries) :
    ∃ last, session.IsCall installation method template args n script last := by
  obtain ⟨tries, htries⟩ := Nat.exists_eq_add_of_lt htries
  rw [Nat.zero_add] at htries
  obtain ⟨last, hle, hrange, hagain, hended⟩ := Retry.exists_upTo_range_eq
    (fun number => Retry.failsTransiently
      (session.made installation method template args n script number).result) tries
  rw [← htries] at hrange
  have hattempts := attempts_report session installation method template args n script
  have hreport := report_eq session installation method template args n script
  have htrail := trailAt_eq session installation method template args n script (last + 1)
  rw [places, hrange] at hattempts hreport
  refine ⟨last, by omega, hrange, hagain, hended.imp_left fun h => by omega, ?_⟩
  rw [call, hargs]
  dsimp only
  rw [hattempts, Retry.getLast?_map_range, List.flatMap_map, ← htrail, hreport,
    Retry.getLast?_map_range, Retry.narrate_map_range, List.flatMap_append,
    List.flatMap_assoc, List.flatMap_singleton]
  simp only [List.flatMap_cons, flatMap_seen_pause, Nat.add_comm 1]
  rfl

theorem IsCall.attempts {session : Session} {installation : Installation} {method : Method α}
    {template : Value} {script : List Outcome} {last : Nat}
    (hcall : session.IsCall installation method template args n script last) :
    (session.report installation method template args n script).attempts =
      (List.range (last + 1)).map
        (session.made installation method template args n script) := by
  rw [attempts_report, hcall.places]

/-- How the last attempt of a call is settled, of which this is known. Its row is written, if one
has to be; if the store refuses it, the call gives the failure of the store. -/
structure IsSettled (store : Audit.Store) (row : Audit.Row Value) (recorded : Bool)
    (Gave : Except Failure α → Prop) (refusal : Option Failure) (given : Except Failure α)
    (after : Session) : Prop where
  gave : refusal = none → Gave given
  refused : ∀ e, refusal = some e → given = .error e ∧ session.audited = true ∧ recorded = true ∧
    store.write after.trail row = .error e
  written : refusal = none → session.audited = true → recorded = true →
    ∃ trail kept, store.write trail row = .ok kept ∧ after.trail = trail ++ [kept]

section Settled

variable {session installation method template script}

theorem IsSettled.mono {store : Audit.Store} {row : Audit.Row Value} {recorded : Bool}
    {Gave Gave' : Except Failure α → Prop} {refusal : Option Failure} {given : Except Failure α}
    {after : Session} (h : session.IsSettled store row recorded Gave refusal given after)
    (himp : Gave given → Gave' given) :
    session.IsSettled store row recorded Gave' refusal given after :=
  ⟨fun hnone => himp (h.gave hnone), h.refused, h.written⟩

theorem exists_isSettled {last : Nat} (Gave : Except Failure α → Prop)
    (hcall : session.IsCall installation method template args n script last)
    (hgave : Gave (Attempt.ran method session.debug template args script last).result) :
    ∃ refusal given,
      (session.call installation method template args script).1 = some given ∧
        session.IsSettled installation.store
          ((Attempt.ran method session.debug template args script last).row method.name template n)
          (Attempt.ran method session.debug template args script last).isRecorded Gave refusal given
          (session.call installation method template args script).2.1 := by
  have hmade := made_eq session installation method template args n script last
  have htrail := trailAt_succ session installation method template args n script last
  have hrows := Attempt.rows_ran method session.debug template args script last
  by_cases hrefuses : ∃ e, session.Refuses installation method template n
      (session.trailAt installation method template args n script last)
      (Attempt.ran method session.debug template args script last) e
  · obtain ⟨e, he⟩ := hrefuses
    rw [hmade, rows_settle_of_refuses he, hrows, List.append_nil] at htrail
    rw [hcall.call, hmade, result_settle_of_refuses he, htrail]
    refine ⟨some e, .error e, rfl, nofun, ?_, nofun⟩
    rintro _ ⟨⟩
    exact ⟨rfl, he.audited, he.isRecorded, he.write⟩
  · have hkept := not_exists.mp hrefuses
    rw [hcall.call, hmade, result_settle_of_not_refuses hkept, htrail, hmade]
    refine ⟨none, _, rfl, fun _ => hgave, nofun, ?_⟩
    intro _ haudited hrecorded
    cases hwrite : installation.store.write
        (session.trailAt installation method template args n script last)
        ((Attempt.ran method session.debug template args script last).row method.name template n)
      with
    | ok kept =>
      refine ⟨_, kept, hwrite, ?_⟩
      rw [settle, haudited, hrecorded, Attempt.recorded, hwrite]
      rfl
    | error e => exact absurd ⟨haudited, hrecorded, hwrite⟩ (hkept e)

end Settled

/-! ### Templates that are not filled -/

section Refused

variable {installation method script} {s : Text} {e : Failure} {last : Nat}
  (he : compileOf (.text s) args = .error e)

include he

theorem ran_of_compileOf_eq_error (debug : Bool) (number : Nat) :
    Attempt.ran method debug (.text s) args script number = ⟨.error e, none, [], [], script⟩ := by
  have hrun (before : List Outcome) :
      Attempt.run method debug (.text s) args before = ⟨.error e, none, [], [], before⟩ := by
    rw [Attempt.run, he]
  have hscript : (fun before => (Attempt.next method debug (.text s) args before).2)^[number]
      script = script := by
    apply Function.iterate_fixed
    rw [Attempt.next, hrun]
  rw [Attempt.ran, Retry.nth, hscript, Attempt.next, hrun]

/-- A template that is not filled is tried once. -/
theorem last_eq_zero_of_compileOf_eq_error
    (hcall : session.IsCall installation method (.text s) args n script last) : last = 0 := by
  by_contra hne
  have hagain := hcall.again 0 (Nat.pos_of_ne_zero hne)
  rw [made_eq] at hagain
  rw [result_settle_of_not_refuses (not_refuses_of_failsTransiently hagain),
    ran_of_compileOf_eq_error he] at hagain
  have htransient : e.isTransient = true := hagain
  rw [isTransient_eq_false_of_compileOf_eq_error he] at htransient
  cases htransient

end Refused

end Scenes

end Session

end QueryTemplate
