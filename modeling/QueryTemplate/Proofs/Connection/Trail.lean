import QueryTemplate.Proofs.Connection.Opening
import QueryTemplate.Proofs.Connection.Rows

/-! The trail that sessions share. Whatever is done with any of them, rows are only added to its
end: one for each attempt of a call, in order, with the query that the compiler makes of the
template and with what came of the attempt; only what ends the program leaves none. A session keeps
the query of its last attempt, so that this is the query of the last row of its last call. The store
is taken to keep the rows that it is given. -/

namespace QueryTemplate

open Failure Template

/-! ### Sessions on one trail -/

/-- Sessions, by their numbers, that keep one trail. Their own copies of it may be out of date. -/
structure Shared where
  rows : Audit.Trail
  session : Nat → Session

/-- A session is opened under a number, or the session with a number takes a step. -/
inductive Action where
  | opened (number : Nat) (url : Text) (options : SessionOptions)
  | taken (number : Nat) (step : Step)

namespace Shared

/-- The session with a number, on the trail as it is. -/
def current (shared : Shared) (number : Nat) : Session :=
  { shared.session number with trail := shared.rows }

variable (installation : Installation)

/-- What an action answers and leaves behind. A session that is opened on the trail stands in place
of the one with its number; one that cannot be opened changes nothing. -/
def act (shared : Shared) : Action → Except Failure Answer × Shared
  | .opened number url options =>
    match (Session.open installation url options shared.rows).1 with
    | .ok session =>
      (.ok .nothing, ⟨session.trail, Function.update shared.session number session⟩)
    | .error failure => (.error failure, shared)
  | .taken number step =>
    let (answer, after, _) := (shared.current number).step installation step
    (answer, ⟨after.trail, Function.update shared.session number after⟩)

section Taken

variable (shared : Shared) (number : Nat) (step : Step)

end Taken

/-- What actions leave behind that are done in turn. -/
def after (shared : Shared) (actions : List Action) : Shared :=
  actions.foldl (fun before next => (before.act installation next).2) shared

theorem after_cons (shared : Shared) (next : Action) (rest : List Action) :
    shared.after installation (next :: rest) =
      (shared.act installation next).2.after installation rest := rfl

theorem after_append (shared : Shared) (front back : List Action) :
    shared.after installation (front ++ back) =
      (shared.after installation front).after installation back := List.foldl_append

end Shared

/-! ### Rows -/

namespace Step

/-- The rows that a step adds. -/
def rows (installation : Installation) : Step → List Audit.Kept
  | .execute (.text s) args script => (Method.execute installation).rows s args script
  | .fetch (.text s) args script => (Method.fetch installation).rows s args script
  | _ => []

def isCall : Step → Bool
  | .execute .. | .fetch .. => true
  | _ => false

end Step

namespace Action

/-- The rows that an action adds. -/
def rows (installation : Installation) : Action → List Audit.Kept
  | .opened .. => []
  | .taken _ step => step.rows installation

end Action

/-! ### Steps -/

variable {α : Type} {installation : Installation}

namespace Session

/-- A step that is no call leaves its session as it was. -/
theorem step_of_isCall_eq_false (session : Session) {step : Step} (h : step.isCall = false) :
    (session.step installation step).2.1 = session := by
  cases step with
  | execute template args script => cases h
  | fetch template args script => cases h
  | compile template args =>
    rw [Session.step]
    cases compileOf template args <;> rfl
  | marker => rfl
  | close => rfl
  | entries =>
    rw [Session.step]
    cases session.audited <;> rfl

/-- A step changes nothing of a session but the query that it keeps and the trail. -/
theorem exists_step_eq (session : Session) (step : Step) :
    ∃ lastSql trail, (session.step installation step).2.1 =
      { session with lastSql := lastSql, trail := trail } := by
  cases hcall : step.isCall with
  | false => exact ⟨_, _, step_of_isCall_eq_false session hcall⟩
  | true =>
    have hframe {β : Type} (method : Method β) (template args : Value) (script : List Outcome) :
        ∃ lastSql trail, (session.call installation method template args script).2.1 =
          { session with lastSql := lastSql, trail := trail } := by
      rw [call]
      cases argCount args <;> exact ⟨_, _, rfl⟩
    cases step with
    | execute template args script => exact hframe (.execute installation) template args script
    | fetch template args script => exact hframe (.fetch installation) template args script
    | _ => cases hcall

theorem audited_step (session : Session) (step : Step) :
    (session.step installation step).2.1.audited = session.audited := by
  obtain ⟨lastSql, trail, hafter⟩ := exists_step_eq session step
  rw [hafter]

theorem debug_step (session : Session) (step : Step) :
    (session.step installation step).2.1.debug = session.debug := by
  obtain ⟨lastSql, trail, hafter⟩ := exists_step_eq session step
  rw [hafter]

end Session

/-! ### One action -/

namespace Shared

variable {shared : Shared}

section Call

variable {number : Nat} {step : Step} {method : Method α} {make : α → Answer} {s : Text}
  {args : Value} {n : Nat} {script : List Outcome}
  (hstep : ∀ session : Session, session.step installation step =
    (Session.answer make (session.call installation method (.text s) args script).1,
      (session.call installation method (.text s) args script).2))
  (hrows : step.rows installation = method.rows s args script)
  (hargs : Session.argCount args = .ok n)
  (hkeeps : ∀ row ∈ step.rows installation, installation.store.Keeps row)

include hstep hrows hargs hkeeps

end Call

end Shared

end QueryTemplate
