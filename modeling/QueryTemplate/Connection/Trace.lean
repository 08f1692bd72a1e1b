import QueryTemplate.Number.Binary64
import QueryTemplate.Text.Basic

/-!
What a connection does, in the order in which it happens: events of the engine, pauses and log
lines.
-/

namespace QueryTemplate

structure EngineOptions where
  poolSize : Int := 5
  poolTimeout : Int := 30
  poolRecycle : Int := 3600
  echo : Bool := false
  future : Bool := true
  deriving DecidableEq, Repr, Inhabited

structure ExecutionOptions where
  /-- Whether the driver is kept from putting parameters into the statement. -/
  noParameters : Bool
  deriving DecidableEq, Repr

inductive EngineEvent where
  | created (options : EngineOptions)
  | begun
  | executed (sql : Text) (options : ExecutionOptions)
  | committed
  | rolledBack
  | connected
  | closed
  | disposed
  deriving DecidableEq, Repr

inductive LogSource where
  | compiler
  | connection
  | retry
  deriving DecidableEq, Repr

def LogSource.label : LogSource → String
  | .compiler => "sql_template.engine DEBUG"
  | .connection => "sqlcon.conn DEBUG"
  | .retry => "sqlcon.audit WARNING"

structure LogLine where
  source : LogSource
  message : String
  deriving DecidableEq, Repr

def LogLine.text (line : LogLine) : String := line.source.label ++ " " ++ line.message

inductive Occurrence where
  | event (event : EngineEvent)
  | slept (seconds : Number.Binary64)
  | logged (line : LogLine)
  deriving DecidableEq

/-- What has happened, the earliest first. -/
abbrev Trace := List Occurrence

namespace Trace

def events (trace : Trace) : List EngineEvent :=
  trace.filterMap fun
    | .event event => some event
    | _ => none

def sleeps (trace : Trace) : List Number.Binary64 :=
  trace.filterMap fun
    | .slept seconds => some seconds
    | _ => none

def logs (trace : Trace) : List LogLine :=
  trace.filterMap fun
    | .logged line => some line
    | _ => none

end Trace

end QueryTemplate
