import QueryTemplate.Connection.Session
import QueryTemplate.Http.Payload
import QueryTemplate.Http.Server
import QueryTemplate.Settings

/-!
The service: requests to compile a template, or to compile it and run the query. A failure of a
value is the client's and is told in words; any other is answered without them. A request that
runs a query opens a session for itself and disposes of it whatever happens, while the audit trail
outlives it.
-/

namespace QueryTemplate.Http

/-- A request. The script holds what the statements of the request will give. -/
structure Request where
  target : Text
  verb : Text
  contentType : Option Text
  body : List UInt8
  script : List Outcome

inductive Reply where
  | query (sql : Text)
  | records (sql : Option Text) (records : List Record)
  | refused (message kind : String)
  | broken

/-- All that a client is told of a failure that is not its own. -/
def brokenMessage : String := "Internal server error"

/-- A reply with its status, which is zero if there is no response. Some replies have no body. -/
structure Response where
  status : Nat
  reply : Option Reply

namespace Response

def ok (reply : Reply) : Response := ⟨200, some reply⟩

def broken : Response := ⟨500, some .broken⟩

/-- No response. Nothing answers for what ends the program. -/
def lost : Response := ⟨0, none⟩

def ofFailure (failure : Failure) : Response :=
  if failure.kind.isA .value then ⟨400, some (.refused failure.message failure.kind.name)⟩
  else if failure.kind.isA .general then broken
  else lost

end Response

variable (server : Server)

/-- The body of a request as JSON. One that is not said to be JSON, or is not, counts as null. -/
def Request.json (request : Request) : Except Failure Value :=
  if request.contentType.any server.isJson then
    match Json.ofBytes server.stack request.body with
    | .ok value => .ok value
    | .error .malformed => .ok .null
    | .error .tooDeep => .error .bodyTooDeep
  else .ok .null

def Request.payload (request : Request) : Except Failure Payload := do
  Payload.ofValue (← request.json server)

def compile (request : Request) : Except Failure Reply := do
  let payload ← request.payload server
  return .query (← Template.compile payload.template payload.args)

/-- Compile the template of a request and run the query. The trail is none as long as no session
has got as far as its engine. A session is closed whatever happens, if it has been opened. -/
def execute (settings : Settings) (trail : Option Audit.Trail) (request : Request) :
    Except Failure Reply × Option Audit.Trail × Trace :=
  match request.payload server with
  | .error failure => (.error failure, trail, [])
  | .ok payload =>
    let installation := server.toInstallation
    let rows := trail.getD []
    match Session.open installation settings.url ⟨{}, settings.debug, true⟩ rows with
    | (.error failure, opened) =>
      (.error failure, if opened.isEmpty then trail else some rows, opened)
    | (.ok session, opened) =>
      let (result, after, seen) := session.call installation (.execute installation)
        (.text payload.template) (.list payload.args) request.script
      let records := (result.getD (.ok [])).map (Reply.records after.lastSql)
      (records, some after.trail, opened ++ seen ++ [.event .disposed])

def respond : Except Failure Reply → Response
  | .ok reply => .ok reply
  | .error failure => .ofFailure failure

/-- The response to a request that nothing answers. One for the head alone gets no body. -/
def Request.unanswered (request : Request) : Response :=
  if request.verb = "HEAD".toList then ⟨500, none⟩ else .broken

def Response.moved : Response := ⟨308, none⟩

def Response.described : Response := ⟨200, none⟩

def handle (settings : Settings) (trail : Option Audit.Trail) (request : Request) :
    Response × Option Audit.Trail × Trace :=
  match server.destination request.target request.verb with
  | .nowhere => (request.unanswered, trail, [])
  | .moved => (.moved, trail, [])
  | .found _ .options => (.described, trail, [])
  | .found .compile .post => (respond (compile server request), trail, [])
  | .found .execute .post =>
    let (result, after, trace) := execute server settings trail request
    (respond result, after, trace)
  | .found .. => (request.unanswered, trail, [])

/-- Answer requests in turn over one trail. The trail after the last one comes with the
responses. -/
def serve (settings : Settings) (trail : Option Audit.Trail) :
    List Request → List (Response × Trace) × Option Audit.Trail
  | [] => ([], trail)
  | request :: rest =>
    let (response, after, trace) := handle server settings trail request
    let (responses, final) := serve settings after rest
    ((response, trace) :: responses, final)

end QueryTemplate.Http
