import QueryTemplate.Proofs.Connection.Call

/-! The rows of calls. A store that takes the rows of a call has no part in what the call gives, so
that these rows can be told before: one for each attempt that has one, with the query that the
compiler makes of the template and with what comes of the attempt. -/

namespace QueryTemplate

open Failure Template

namespace Audit

/-- A row as it is given to a store that keeps it as it is. -/
def Row.given (row : Row (Option Text)) : Row Value :=
  { row with template := row.template.elim .null .text }

/-- A store that takes a row, whatever rows it has. -/
def Store.Takes (store : Store) (row : Kept) : Prop :=
  ∀ trail, ∃ kept, store.write trail row.given = .ok kept

/-- A store that keeps a row as it is given, whatever rows it has. -/
def Store.Keeps (store : Store) (row : Kept) : Prop :=
  ∀ trail, store.write trail row.given = .ok row

theorem Store.Keeps.takes {store : Store} {row : Kept} (h : store.Keeps row) : store.Takes row :=
  fun trail => ⟨row, h trail⟩

/-- The texts of a row. -/
def Row.texts (row : Row (Option Text)) : List Text :=
  row.template.toList ++ row.sql.toList ++ (row.error.map String.toList).toList

theorem storedText_eq {s : Text} (h : Text.firstLone? s = none) : storedText s = .ok s := by
  rw [storedText, h]

theorem storedOption_eq {text : Option Text} (h : ∀ s ∈ text, Text.firstLone? s = none) :
    storedOption text = .ok text := by
  cases text with
  | none => rfl
  | some s =>
    rw [storedOption, storedText_eq (h s rfl)]
    rfl

theorem storedTemplate_eq {template : Option Text}
    (h : ∀ s ∈ template, Text.firstLone? s = none) :
    storedTemplate (template.elim .null .text) = .ok template := by
  cases template with
  | none => rfl
  | some s =>
    show (storedText s).map some = _
    rw [storedText_eq (h s rfl)]
    rfl

/-- The usual store keeps rows whose texts can be encoded. -/
theorem Store.keeps_usual {row : Kept} (htexts : ∀ s ∈ row.texts, Text.firstLone? s = none)
    (hcount : 0 ≤ row.argCount ∧ row.argCount < 2 ^ 63) : Store.usual.Keeps row := by
  obtain ⟨caller, template, argCount, sql, ok, error⟩ := row
  simp only [Row.texts, List.mem_append, Option.mem_toList, or_imp, forall_and] at htexts
  obtain ⟨⟨htemplate, hsql⟩, herror⟩ := htexts
  have hinteger : storedInteger argCount = .ok argCount := by
    rw [storedInteger, if_pos ⟨(neg_nonpos.mpr (Int.natCast_nonneg _)).trans hcount.1, hcount.2⟩]
  intro trail
  show stored _ = _
  rw [stored]
  simp only [Row.given, storedTemplate_eq htemplate, hinteger, storedOption_eq hsql,
    storedOption_eq herror, ok_bind]
  cases error with
  | none => rfl
  | some message =>
    simp only [Option.map_some, String.ofList_toList]
    rfl

end Audit

variable {α : Type}

/-! ### Attempts that are not recorded -/

section Ran

variable (method : Method α) (debug : Bool) (template args : Value) (script : List Outcome)
  (number : Nat)

/-- Debugging changes nothing of an attempt but what is seen of it. -/
theorem Attempt.run_debug : run method debug template args script =
    { run method false template args script with
      trace := (run method debug template args script).trace } := by
  unfold run
  cases compileOf template args <;> rfl

/-- An attempt finds the same part of the script, whether it is debugged or not. -/
theorem Attempt.exists_ran_eq_run : ∃ before, ∀ debug,
    ran method debug template args script number = run method debug template args before := by
  refine ⟨(fun before => (next method false template args before).2)^[number] script, ?_⟩
  intro debug
  have hscript (before : List Outcome) : (next method debug template args before).2 =
      (next method false template args before).2 := by
    rw [next, run_debug]
    rfl
  rw [ran, Retry.nth, funext hscript]
  rfl

theorem Attempt.ran_debug : ran method debug template args script number =
    { ran method false template args script number with
      trace := (ran method debug template args script number).trace } := by
  obtain ⟨before, hran⟩ := exists_ran_eq_run method template args script number
  rw [hran, hran]
  exact run_debug ..

theorem Attempt.sql_ran :
    (ran method debug template args script number).sql = (compileOf template args).toOption := by
  obtain ⟨before, hran⟩ := exists_ran_eq_run method template args script number
  rw [hran, run]
  cases compileOf template args <;> rfl

end Ran

namespace Method

variable (method : Method α) (s : Text) (args : Value) (script : List Outcome)

/-- What is kept of an attempt. -/
def rowOf (n : Nat) (attempt : Attempt α) : Audit.Kept where
  caller := method.name
  template := some s
  argCount := n
  sql := attempt.sql
  ok := attempt.error?.isNone
  error := attempt.error?.map Failure.message

/-- The row of an attempt, if it has one. -/
def row? (n : Nat) (attempt : Attempt α) : Option Audit.Kept :=
  if attempt.isRecorded then some (method.rowOf s n attempt) else none

/-- The places of the attempts of a call, if nothing keeps their rows from being written. -/
def places : List Nat :=
  Retry.upTo (fun number => Retry.failsTransiently
    (Attempt.ran method false (.text s) args script number).result) (List.range method.tries)

/-- These attempts, before they are recorded. -/
def attempts : List (Attempt α) :=
  (method.places s args script).map (Attempt.ran method false (.text s) args script)

/-- The rows of a call. Without a number of arguments there are none. -/
def rows : List Audit.Kept :=
  match Session.argCount args with
  | .ok n => (method.attempts s args script).filterMap (method.row? s n)
  | .error _ => []

theorem rows_eq {n : Nat} (hargs : Session.argCount args = .ok n) :
    method.rows s args script = (method.attempts s args script).filterMap (method.row? s n) := by
  rw [rows, hargs]

variable {n : Nat} {attempt : Attempt α}

theorem row?_congr {attempt' : Attempt α} (hsql : attempt.sql = attempt'.sql)
    (hresult : attempt.result = attempt'.result) :
    method.row? s n attempt = method.row? s n attempt' := by
  rw [row?, row?, rowOf, rowOf, Attempt.isRecorded, Attempt.isRecorded, Attempt.error?,
    Attempt.error?, hsql, hresult]

theorem row?_of_isRecorded (h : attempt.isRecorded = true) :
    method.row? s n attempt = some (method.rowOf s n attempt) := if_pos h

theorem given_rowOf : (method.rowOf s n attempt).given = attempt.row method.name (.text s) n := rfl

end Method

/-! ### Calls -/

namespace Session

variable {session : Session} {installation : Installation} {method : Method α} {s : Text}
  {args : Value} {n : Nat} {script : List Outcome}

/-- A session keeps the query of a call, if there is one. -/
theorem lastSql_call {last : Nat}
    (hcall : session.IsCall installation method (.text s) args n script last) :
    (session.call installation method (.text s) args script).2.1.lastSql =
      (compileOf (.text s) args).toOption := by
  rw [hcall.call]
  dsimp only
  rw [made_eq, sql_settle, Attempt.sql_ran]

/-- An attempt whose row is taken gives what it would give without it. -/
theorem result_settle_of_takes {trail : Audit.Trail} {ran : Attempt α}
    (h : ∀ row, method.row? s n ran = some row → installation.store.Takes row) :
    (session.settle installation method (.text s) n trail ran).result = ran.result := by
  apply result_settle_of_not_refuses
  intro e hrefuses
  obtain ⟨kept, hkept⟩ := h _ (method.row?_of_isRecorded s hrefuses.isRecorded) trail
  rw [Method.given_rowOf, hrefuses.write] at hkept
  cases hkept

theorem rows_settle_of_audited_eq_false {trail : Audit.Trail} {ran : Attempt α}
    (haudited : session.audited = false) :
    (session.settle installation method (.text s) n trail ran).rows = ran.rows := by
  rw [settle, haudited]
  rfl

variable (hargs : argCount args = .ok n)
  (htakes : ∀ row ∈ method.rows s args script, installation.store.Takes row)

include hargs

omit htakes in
theorem mem_rows {number : Nat} (hnumber : number ∈ method.places s args script)
    (debug : Bool) {row : Audit.Kept}
    (hrow : method.row? s n (Attempt.ran method debug (.text s) args script number) = some row) :
    row ∈ method.rows s args script := by
  rw [method.rows_eq s args script hargs, List.mem_filterMap]
  refine ⟨_, List.mem_map_of_mem hnumber, ?_⟩
  rw [Attempt.ran_debug] at hrow
  rw [← hrow]
  exact method.row?_congr s rfl rfl

include htakes

/-- The attempts of a call whose rows are taken give what they would give without. -/
theorem result_made_of_takes (session : Session) {number : Nat}
    (hnumber : number ∈ method.places s args script) :
    (session.made installation method (.text s) args n script number).result =
      (Attempt.ran method false (.text s) args script number).result := by
  rw [made_eq, result_settle_of_takes, Attempt.ran_debug]
  intro row hrow
  exact htakes row (mem_rows hargs hnumber session.debug hrow)

theorem places_of_takes : session.places installation method (.text s) args n script =
    method.places s args script := by
  apply Retry.upTo_congr
  intro number hnumber
  rw [result_made_of_takes hargs htakes session hnumber]

omit htakes

theorem trail_call_of_audited_eq_false (haudited : session.audited = false) :
    (session.call installation method (.text s) args script).2.1.trail = session.trail := by
  rw [call, hargs]
  dsimp only
  rw [attempts_report, List.flatMap_map]
  rw [List.append_right_eq_self, List.flatMap_eq_nil_iff]
  intro number _
  rw [made_eq, rows_settle_of_audited_eq_false haudited]
  exact Attempt.rows_ran ..

end Session

end QueryTemplate
