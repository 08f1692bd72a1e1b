import QueryTemplate.Connection.Session

/-!
The steps of a session, one after the other: what each one answers, what it leaves behind and what
is seen of it.
-/

namespace QueryTemplate

inductive Step where
  | execute (template args : Value) (script : List Outcome)
  | fetch (template args : Value) (script : List Outcome)
  | compile (template args : Value)
  | marker
  | close
  | entries

inductive Answer where
  | records (records : List Record)
  | table (table : Table)
  | query (sql : Text)
  | flag (b : Bool)
  | nothing
  | entries (entries : List (Nat × Audit.Kept))

namespace Session

def marker : Value := .skip

/-- An answer to a call: what the call gives, if it gives anything. -/
def answer {α : Type} (make : α → Answer) : Option (Except Failure α) → Except Failure Answer
  | some result => result.map make
  | none => .ok .nothing

def step (session : Session) (installation : Installation) :
    Step → Except Failure Answer × Session × Trace
  | .execute template args script =>
    let (result, after, trace) :=
      session.call installation (.execute installation) template args script
    (answer .records result, after, trace)
  | .fetch template args script =>
    let (result, after, trace) :=
      session.call installation (.fetch installation) template args script
    (answer .table result, after, trace)
  | .compile template args =>
    match Template.compileOf template args with
    | .ok sql =>
      (.ok (.query sql), session,
        [.logged ⟨.compiler, "Built query: " ++ String.ofList sql⟩])
    | .error failure => (.error failure, session, [])
  | .marker => (.ok (.flag marker.isSkip), session, [])
  | .close => (.ok .nothing, session, [.event .disposed])
  | .entries =>
    if session.audited then (.ok (.entries (Audit.entries session.trail)), session, [])
    else (.error .auditDisabled, session, [])

/-- Take steps in turn. Each is given with what it answered, the session after it and what was seen
of it. -/
def run (installation : Installation) (session : Session) :
    List Step → List (Except Failure Answer × Session × Trace)
  | [] => []
  | next :: rest =>
    let taken := session.step installation next
    taken :: run installation taken.2.1 rest

end Session

end QueryTemplate
