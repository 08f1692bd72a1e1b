import QueryTemplate.Http.Service
import QueryTemplate.Proofs.Connection.Opening
import QueryTemplate.Proofs.Connection.Rows
import QueryTemplate.Proofs.Connection.Transaction

/-! The two routes of the service on one body. If the template of a request cannot be filled,
nothing is sent, and running its query is answered as compiling it is, unless the row of the attempt
is refused. If it can, every statement that is sent is the query that compiling it is answered with,
however often the connection fails. -/

namespace QueryTemplate

open Failure Template

/-! ### What is sent -/

def EngineEvent.query? : EngineEvent → Option Text
  | .executed sql _ => some sql
  | _ => none

namespace Trace

/-- The queries of the statements that are sent, in order. -/
def sent (trace : Trace) : List Text := trace.events.filterMap EngineEvent.query?

theorem sent_append (front back : Trace) : sent (front ++ back) = sent front ++ sent back := by
  rw [sent, events_append, List.filterMap_append]
  rfl

theorem sent_acts (trace : Trace) : sent (acts trace) = sent trace := by
  rw [sent, events_acts, sent]

end Trace

theorem Outcome.filterMap_query?_transaction (sql : Text) (outcome : Outcome) :
    (outcome.transaction sql).filterMap EngineEvent.query? = [sql] := by
  cases outcome <;> rfl

theorem Session.sent_transactions (sql : Text) (script : List Outcome) (last : Nat) :
    (transactions sql script last).sent = List.replicate (last + 1) sql := by
  have hfront : (List.range last).flatMap (fun _ => [sql]) = List.replicate last sql := by
    rw [← List.map_eq_flatMap, List.map_const', List.length_range]
  rw [Trace.sent, events_transactions, List.filterMap_append, List.filterMap_flatMap]
  simp only [Outcome.filterMap_query?_transaction]
  rw [hfront, List.replicate_succ']

namespace Http

/-! ### The routes -/

/-- A server that finds the two routes under their paths. -/
structure Server.IsRouted (server : Server) : Prop where
  compile : server.destination "/query/build".toList "POST".toList = .found .compile .post
  execute : server.destination "/query/execute".toList "POST".toList = .found .execute .post

theorem Server.isRouted_usual (stack : Json.Stack) : (usual stack).IsRouted where
  compile := show Destination.of "/query/build".toList "POST".toList = _ by decide +kernel
  execute := show Destination.of "/query/execute".toList "POST".toList = _ by decide +kernel

/-- A server that can open sessions for a URL: it is supported, the store can be opened, and an
engine can be made. -/
structure Server.Connects (server : Server) (url : Text) : Prop where
  supported : server.toInstallation.IsSupported url
  opened : server.store.opened = .ok ()
  created : server.create url {} = .ok ()

/-- A request that a client posts to a path. -/
def Request.posted (path : String) (contentType : Option Text) (body : List UInt8)
    (script : List Outcome) : Request :=
  ⟨path.toList, "POST".toList, contentType, body, script⟩

/-- A request that runs a query: it is posted to the path of the route that does. -/
def Request.IsRun (server : Server) (request : Request) : Prop :=
  server.destination request.target request.verb = .found .execute .post

section Handle

variable {server : Server} (settings : Settings) (trail : Option Audit.Trail)

theorem handle_of_isRun {request : Request} (h : request.IsRun server) :
    handle server settings trail request = (respond (execute server settings trail request).1,
      (execute server settings trail request).2) := by
  rw [handle, h]

theorem handle_of_found_compile {request : Request}
    (h : server.destination request.target request.verb = .found .compile .post) :
    handle server settings trail request = (respond (compile server request), trail, []) := by
  rw [handle, h]

end Handle

theorem status_ofFailure (e : Failure) : (Response.ofFailure e).status ≠ 200 := by
  rw [Response.ofFailure]
  split_ifs <;> simp [Response.broken, Response.lost]

/-! ### A request to run a query -/

/-- The session of a request, on the trail as it finds it. -/
def sessionOf (settings : Settings) (backend : Text) (trail : Option Audit.Trail) : Session :=
  ⟨backend, settings.debug, true, none, trail.getD []⟩

variable {server : Server} {settings : Settings}

theorem Server.Connects.exists_open (h : server.Connects settings.url)
    (trail : Option Audit.Trail) : ∃ backend,
      Session.open server.toInstallation settings.url ⟨{}, settings.debug, true⟩ (trail.getD []) =
        (.ok (sessionOf settings backend trail), [.event (.created {})]) := by
  obtain ⟨backend, hbackend⟩ := (server.exists_supportedBackend_eq_ok_iff _).mpr h.supported
  refine ⟨backend, ?_⟩
  rw [Session.open_of_admitted_eq_ok (Session.admitted_eq_ok_iff.mpr
    ⟨backend, hbackend, fun _ => h.opened, rfl⟩), h.created]
  rfl

section Execute

variable {backend : Text} {request : Request} {trail : Option Audit.Trail} {payload : Payload}
  (hopen : Session.open server.toInstallation settings.url ⟨{}, settings.debug, true⟩
    (trail.getD []) = (.ok (sessionOf settings backend trail), [.event (.created {})]))
  (hpayload : request.payload server = .ok payload)

/-- The call of a request for the session that is opened for it. -/
def callOf (server : Server) (settings : Settings) (backend : Text) (trail : Option Audit.Trail)
    (payload : Payload) (script : List Outcome) :
    Option (Except Failure (List Record)) × Session × Trace :=
  (sessionOf settings backend trail).call server.toInstallation (.execute server.toInstallation)
    (.text payload.template) (.list payload.args) script

include hopen hpayload

/-- A session is opened, called once and disposed of. -/
theorem execute_of_open_eq_ok :
    execute server settings trail request =
      let (given?, after, trace) := callOf server settings backend trail payload request.script
      ((given?.getD (.ok [])).map (Reply.records after.lastSql), some after.trail,
        [.event (.created {})] ++ trace ++ [.event .disposed]) := by
  rw [execute, hpayload]
  dsimp only
  rw [hopen]
  rfl

/-- A request whose template is not filled sends nothing. It fails for that reason, or because the
row of its attempt is refused. -/
theorem execute_of_compile_eq_error {failure : Failure}
    (hfailure : Template.compile payload.template payload.args = .error failure) :
    (execute server settings trail request).2.2 = [.event (.created {}), .event .disposed] ∧
      ((execute server settings trail request).1 = .error failure ∨
        ∃ e, (execute server settings trail request).1 = .error e ∧
          server.store.write ((execute server settings trail request).2.1.getD [])
            ⟨"execute", .text payload.template, payload.args.length, none, false,
              some failure.message⟩ = .error e) := by
  have hbuilt : compileOf (.text payload.template) (.list payload.args) = .error failure := hfailure
  obtain ⟨refusal, given, hgiven, hrefused⟩ := Session.exists_isRefused request.script
    server.toInstallation (sessionOf settings backend trail)
    (show Session.argCount (.list payload.args) = .ok _ from rfl) hbuilt
  rw [execute_of_open_eq_ok hopen hpayload, callOf]
  dsimp only
  rw [hgiven, hrefused.trace]
  refine ⟨rfl, ?_⟩
  cases refusal with
  | none => exact .inl (by rw [hrefused.settled.gave rfl]; rfl)
  | some e =>
    obtain ⟨rfl, -, -, hwrite⟩ := hrefused.settled.refused e rfl
    exact .inr ⟨e, rfl, hwrite⟩

/-- A request whose template is filled sends the query, and nothing else. -/
theorem execute_of_compile_eq_ok (hscope : server.transaction.IsTransaction) {sql : Text}
    (hsql : Template.compile payload.template payload.args = .ok sql) :
    (∃ last, (execute server settings trail request).2.2.sent = List.replicate (last + 1) sql) ∧
      ∀ reply, (execute server settings trail request).1 = .ok reply →
        ∃ records, reply = .records (some sql) records := by
  have hbuilt : compileOf (.text payload.template) (.list payload.args) = .ok sql := hsql
  obtain ⟨last, hcall⟩ := Session.exists_isCall (sessionOf settings backend trail)
    server.toInstallation (.execute server.toInstallation) (.text payload.template) request.script
    (show Session.argCount (.list payload.args) = .ok _ from rfl) (Nat.zero_lt_succ 2)
  have hacts := Session.acts_call_execute hscope hbuilt request.script _ _ hcall
  rw [execute_of_open_eq_ok hopen hpayload, callOf]
  dsimp only
  rw [Session.lastSql_call hcall, hbuilt]
  constructor
  · refine ⟨last, ?_⟩
    rw [Trace.sent_append, Trace.sent_append, ← Trace.sent_acts (Session.call ..).2.2, hacts,
      Session.sent_transactions]
    exact List.append_nil _
  · intro reply hreply
    obtain ⟨records, -, hrecords⟩ := map_eq_ok_iff.mp hreply
    exact ⟨records, hrecords.symm⟩

end Execute

/-! ### Both routes -/

/-- What is seen if nothing is run: no transaction is begun and nothing is sent. -/
def IsIdle (trace : Trace) : Prop := .begun ∉ trace.events ∧ trace.sent = []

/-- A failure of the store that keeps the row of an attempt from being written, whose template is
not filled. -/
def IsRowRefused (server : Server) (request : Request) (trail : Audit.Trail) (e : Failure) : Prop :=
  ∃ payload failure, request.payload server = .ok payload ∧
    Template.compile payload.template payload.args = .error failure ∧
      server.store.write trail ⟨"execute", .text payload.template, payload.args.length, none, false,
        some failure.message⟩ = .error e

/-- How the responses of the two routes go together, given what is seen of running the query and
how the row of its attempt may be refused. -/
structure Agrees (built executed : Response) (trace : Trace) (Refused : Failure → Prop) :
    Prop where
  refused : built.status = 400 →
    IsIdle trace ∧ (executed = built ∨ ∃ e, Refused e ∧ executed = .ofFailure e)
  broken : built.status = 500 →
    IsIdle trace ∧ (executed = built ∨ ∃ e, Refused e ∧ executed = .ofFailure e)
  answered : built.status = 200 → ∃ sql, built.reply = some (.query sql) ∧ trace.sent ≠ [] ∧
    (∀ query ∈ trace.sent, query = sql) ∧
      (executed.status = 200 → ∃ records, executed.reply = some (.records (some sql) records))

theorem agrees_of_error {executed : Response} {trace : Trace} {Refused : Failure → Prop}
    (e : Failure) (hidle : IsIdle trace)
    (h : executed = respond (.error e) ∨ ∃ e, Refused e ∧ executed = .ofFailure e) :
    Agrees (respond (.error e)) executed trace Refused where
  refused _ := ⟨hidle, h⟩
  broken _ := ⟨hidle, h⟩
  answered hstatus := absurd hstatus (status_ofFailure e)

theorem agrees_of_ok {result : Except Failure Reply} {trace : Trace} {Refused : Failure → Prop}
    {sql : Text} {last : Nat} (hsent : trace.sent = List.replicate (last + 1) sql)
    (hreply : ∀ reply, result = .ok reply → ∃ records, reply = .records (some sql) records) :
    Agrees (respond (.ok (.query sql))) (respond result) trace Refused where
  refused h := by cases h
  broken h := by cases h
  answered _ := by
    refine ⟨sql, rfl, ?_, ?_, ?_⟩
    · rw [hsent]
      exact List.cons_ne_nil _ _
    · rw [hsent]
      exact fun query => List.eq_of_mem_replicate
    · intro hstatus
      cases result with
      | error e => exact absurd hstatus (status_ofFailure e)
      | ok reply =>
        obtain ⟨records, rfl⟩ := hreply reply rfl
        exact ⟨records, rfl⟩

/-- A body is refused on both routes, or breaks both, or is run as the query it is compiled to. What
it is refused for is the same on both, unless the store refuses the row of the attempt to run it. -/
theorem build_agrees_with_execute (hrouted : server.IsRouted)
    (hconnects : server.Connects settings.url) (hscope : server.transaction.IsTransaction)
    (before trail : Option Audit.Trail) (contentType : Option Text) (body : List UInt8)
    (script : List Outcome) :
    let built := Request.posted "/query/build" contentType body script
    let executed := Request.posted "/query/execute" contentType body script
    Agrees (handle server settings before built).1 (handle server settings trail executed).1
      (handle server settings trail executed).2.2
      (IsRowRefused server executed ((handle server settings trail executed).2.1.getD [])) := by
  intro built executed
  have hsame : built.payload server = executed.payload server := rfl
  have hrun : executed.IsRun server := hrouted.execute
  obtain ⟨backend, hopen⟩ := hconnects.exists_open trail
  rw [handle_of_found_compile settings before hrouted.compile,
    handle_of_isRun settings trail hrun, compile, hsame]
  dsimp only
  cases hpayload : executed.payload server with
  | error e =>
    rw [execute, hpayload]
    exact agrees_of_error e ⟨List.not_mem_nil, rfl⟩ (.inl rfl)
  | ok payload =>
    rw [ok_bind]
    cases hsql : Template.compile payload.template payload.args with
    | error failure =>
      obtain ⟨htrace, hresult⟩ := execute_of_compile_eq_error hopen hpayload hsql
      rw [htrace]
      refine agrees_of_error failure ⟨by decide, rfl⟩ ?_
      rcases hresult with hresult | ⟨e, hresult, hwrite⟩
      · exact .inl (by rw [hresult])
      · exact .inr ⟨e, ⟨payload, failure, hpayload, hsql, hwrite⟩, by rw [hresult]; rfl⟩
    | ok sql =>
      obtain ⟨⟨last, hsent⟩, hreply⟩ := execute_of_compile_eq_ok hopen hpayload hscope hsql
      exact agrees_of_ok hsent hreply

theorem build_agrees_with_execute_lost_connection :
    let server := Server.usual ⟨20, 3⟩
    let settings : Settings := ⟨"mysql+pymysql://db/shop".toList, "audit.db".toList, true⟩
    let contentType := some "application/json".toList
    let body := "\x7b\"template\": \"SELECT ?d\", \"args\": [1]\x7d".toList.map fun c =>
      UInt8.ofNat c.toNat
    let script := [Outcome.failed (.statement .operational "gone away".toList)]
    let built := handle server settings none (.posted "/query/build" contentType body script)
    let request := Request.posted "/query/execute" contentType body script
    let executed := handle server settings none request
    built.1.status = 200 ∧ executed.2.2.sent = ["SELECT 1".toList, "SELECT 1".toList] ∧
      Agrees built.1 executed.1 executed.2.2
        (IsRowRefused server request (executed.2.1.getD [])) := by
  have hconnects : (Server.usual ⟨20, 3⟩).Connects
      (Settings.url ⟨"mysql+pymysql://db/shop".toList, "audit.db".toList, true⟩) :=
    ⟨⟨"mysql".toList, by decide +kernel, .inl rfl⟩, rfl, rfl⟩
  exact ⟨by decide +kernel, by decide +kernel, build_agrees_with_execute
    (Server.isRouted_usual _) hconnects Scope.isTransaction_transaction none none _ _ _⟩

/-- What a client is told of a failure. -/
def Response.message? (response : Response) : Option String :=
  match response.reply with
  | some (.refused message _) => some message
  | _ => none

/-- A template that is refused for its arguments on one route, and on the other for a character that
the usual store has no form for. -/
theorem exists_refused_differently :
    let server := Server.usual ⟨20, 3⟩
    let settings : Settings := ⟨"mysql+pymysql://db/shop".toList, "audit.db".toList, true⟩
    let contentType := some "application/json".toList
    let body := "\x7b\"template\": \"? -- \\udcff\", \"args\": []\x7d".toList.map fun c =>
      UInt8.ofNat c.toNat
    let built := handle server settings none (.posted "/query/build" contentType body [])
    let executed := handle server settings none (.posted "/query/execute" contentType body [])
    built.1.status = 400 ∧ executed.1.status = 400 ∧
      built.1.message? = some "Template has 1 placeholder(s) but 0 argument(s) were given" ∧
        executed.1.message? ≠ built.1.message? := by
  decide +kernel

end Http

end QueryTemplate
