import QueryTemplate.Connection.Installation
import QueryTemplate.Retry
import QueryTemplate.Template.Fill

/-!
Connections that compile a template and run the query it makes. A call is a row of attempts. Each
attempt compiles the template, runs the query inside a block of the engine, and leaves a row in the
audit trail. `execute` runs inside a transaction and is tried again after a failure of the
connection; `fetch` reads a table and is tried once.
-/

namespace QueryTemplate

variable {α : Type}

structure Session where
  backend : Text
  debug : Bool
  audited : Bool
  /-- The query of the last attempt, if it was built. -/
  lastSql : Option Text
  trail : Audit.Trail

structure SessionOptions where
  engine : EngineOptions := {}
  debug : Bool := false
  audited : Bool := true

namespace Session

/-- A session on a trail that may have rows already, before its engine is made. -/
def admitted (installation : Installation) (url : Text) (options : SessionOptions)
    (trail : Audit.Trail) : Except Failure Session := do
  let backend ← installation.supportedBackend url
  if options.audited then installation.store.opened
  return ⟨backend, options.debug, options.audited, none, trail⟩

end Session

/-- Open a session, with what is seen of that. -/
def Session.open (installation : Installation) (url : Text) (options : SessionOptions)
    (trail : Audit.Trail) : Except Failure Session × Trace :=
  match Session.admitted installation url options trail with
  | .error failure => (.error failure, [])
  | .ok session =>
    ((installation.create url options.engine).map fun _ => session,
      [.event (.created options.engine)])

/-- A way to run a query: its name, how often it is tried, the block around the statement, and what
is made of the outcome of the statement there. -/
structure Method (α : Type) where
  name : String
  tries : Nat
  isWritable_tries : Number.isWritable tries = true
  scope : Scope
  read : Outcome → Except Failure α

namespace Method

def execute (installation : Installation) : Method (List Record) where
  name := "execute"
  tries := Retry.standardTries
  isWritable_tries := Retry.isWritable_standardTries
  scope := installation.transaction
  read := Outcome.records

def fetch (installation : Installation) : Method Table where
  name := "fetch_df"
  tries := 1
  isWritable_tries := Number.isWritable_one
  scope := installation.connection
  read
    | .failed failure => .error failure
    | .returned result => installation.tabulate result
    | .done => do installation.tabulate (← installation.rowless)

end Method

/-- The options of a finished query: nothing is put into it any more. -/
def ExecutionOptions.finished : ExecutionOptions where
  noParameters := true

/-- Send a query inside a block. The statement gives the next outcome of the script; a block that
cannot be entered sends nothing, and a failure on leaving it is the failure of the whole. -/
def Scope.send (scope : Scope) (read : Outcome → Except Failure α) (sql : Text)
    (script : List Outcome) : Except Failure α × List EngineEvent × List Outcome :=
  match scope.enter with
  | (entering, .error failure) => (.error failure, entering, script)
  | (entering, .ok _) =>
    let result := read (script.headD .done)
    let (leaving, left) := scope.leave result.toBool
    (left.bind fun _ => result, entering ++ .executed sql .finished :: leaving, script.tail)

structure Attempt (α : Type) where
  result : Except Failure α
  sql : Option Text
  rows : List Audit.Kept
  trace : Trace
  /-- The outcomes of statements that are still to come. -/
  script : List Outcome

namespace Attempt

/-- Compile a template and run the query. -/
def run (method : Method α) (debug : Bool) (template args : Value) (script : List Outcome) :
    Attempt α :=
  match Template.compileOf template args with
  | .error failure => ⟨.error failure, none, [], [], script⟩
  | .ok sql =>
    let built := Occurrence.logged ⟨.compiler, "Built query: " ++ String.ofList sql⟩
    let shown := Occurrence.logged ⟨.connection, "SQL: " ++ String.ofList sql⟩
    let (result, events, rest) := method.scope.send method.read sql script
    ⟨result, some sql, [], built :: (if debug then [shown] else []) ++ events.map .event, rest⟩

def error? (attempt : Attempt α) : Option Failure :=
  match attempt.result with
  | .ok _ => none
  | .error failure => some failure

/-- Whether a row is written of an attempt. There is none of what ends the program. -/
def isRecorded (attempt : Attempt α) : Bool :=
  attempt.error?.all fun failure => failure.kind.isA .general

def row (caller : String) (template : Value) (argCount : Nat) (attempt : Attempt α) :
    Audit.Row Value where
  caller := caller
  template := template
  argCount := argCount
  sql := attempt.sql
  ok := attempt.error?.isNone
  error := attempt.error?.map Failure.message

/-- Record an attempt after the rows of a trail. One whose row cannot be written fails for that
reason instead. -/
def recorded (store : Audit.Store) (trail : Audit.Trail) (row : Audit.Row Value)
    (attempt : Attempt α) : Attempt α :=
  match store.write trail row with
  | .ok kept => { attempt with rows := [kept] }
  | .error failure => { attempt with result := .error failure }

end Attempt

/-- What an attempt finds: the trail as it is, and the outcomes of statements to come. -/
abbrev Scene := Audit.Trail × List Outcome

namespace Session

variable (session : Session) (installation : Installation) (method : Method α)
  (template args : Value) (argCount : Nat)

/-- Record an attempt if the session keeps a trail. -/
def settle (trail : Audit.Trail) (ran : Attempt α) : Attempt α :=
  if session.audited && ran.isRecorded then
    ran.recorded installation.store trail (ran.row method.name template argCount)
  else ran

/-- One attempt, and what it leaves behind. -/
def attempt (scene : Scene) : Attempt α × Scene :=
  let made := session.settle installation method template argCount scene.1
    (Attempt.run method session.debug template args scene.2)
  (made, scene.1 ++ made.rows, made.script)

/-- The attempts of a call, with the warnings and pauses between them. Two seconds can be slept. -/
def report (script : List Outcome) : Retry.Report (Attempt α) α Number.Binary64 :=
  Retry.run ⟨method.tries, Retry.standardDelay⟩ (fun _ => .ok ()) method.name
    (session.attempt installation method template args argCount) Attempt.result
    (session.trail, script)

end Session

/-- What is seen of an event in a call. -/
def Attempt.seen : Retry.Event (Attempt α) Number.Binary64 → Trace
  | .attempted made => made.trace
  | .warned text => [.logged ⟨.retry, text⟩]
  | .slept delay => [.slept delay]

namespace Session

def argCount : Value → Except Failure Nat
  | .null => .ok 0
  | args => Template.size args

/-- What a call gives, leaves behind and shows. Arguments without a size are refused before
anything happens. -/
def call (session : Session) (installation : Installation) (method : Method α)
    (template args : Value) (script : List Outcome) :
    Option (Except Failure α) × Session × Trace :=
  match argCount args with
  | .error failure => (some (.error failure), session, [])
  | .ok n =>
    let report := session.report installation method template args n script
    (report.outcome?,
      { session with
        lastSql := report.attempts.getLast?.bind Attempt.sql
        trail := session.trail ++ report.attempts.flatMap Attempt.rows },
      report.history.flatMap Attempt.seen)

end Session

end QueryTemplate
