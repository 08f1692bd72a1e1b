import QueryTemplate.Proofs.Connection.Call
import QueryTemplate.Proofs.Connection.Record

/-! Calls inside a transaction. A statement that fails is rolled back, and so is everything that a
call does but its last attempt: a call that returns has committed once, and one that does not has
committed nothing, unless the row of its last attempt was refused. Another attempt is made only
after a failure of the connection. -/

namespace QueryTemplate

open Failure Template

/-! ### What is done -/

namespace Trace

/-- What is done: events and pauses, without what is logged. -/
def acts (trace : Trace) : Trace :=
  trace.filter fun
    | .logged _ => false
    | _ => true

theorem acts_append (front back : Trace) : acts (front ++ back) = acts front ++ acts back :=
  List.filter_append front back

theorem acts_flatMap {β : Type} (all : List β) (f : β → Trace) :
    acts (all.flatMap f) = all.flatMap fun b => acts (f b) := List.filter_flatMap

theorem acts_map_event (events : List EngineEvent) :
    acts (events.map .event) = events.map .event := by
  rw [acts, List.filter_map]
  exact congrArg _ (List.filter_eq_self.mpr fun _ _ => rfl)

theorem events_append (front back : Trace) :
    events (front ++ back) = events front ++ events back := List.filterMap_append

theorem events_map_event (all : List EngineEvent) : events (all.map .event) = all := by
  rw [events, List.filterMap_map]
  exact List.filterMap_some

theorem events_acts (trace : Trace) : events (acts trace) = events trace := by
  rw [events, events, acts, List.filterMap_filter]
  congr 1
  funext occurrence
  cases occurrence <;> rfl

end Trace

/-- A block of a transaction begins it, and commits it or rolls it back; none of this fails. -/
structure Scope.IsTransaction (scope : Scope) : Prop where
  enter : scope.enter = ([.begun], .ok ())
  leave : ∀ succeeded,
    scope.leave succeeded = ([if succeeded then .committed else .rolledBack], .ok ())

theorem Scope.isTransaction_transaction : Scope.transaction.IsTransaction := ⟨rfl, fun _ => rfl⟩

namespace Outcome

def error? : Outcome → Option Failure
  | .failed failure => some failure
  | _ => none

/-- Whether a statement failed in a way that another attempt may not meet. -/
def isTransient (outcome : Outcome) : Bool := outcome.error?.any Failure.isTransient

/-- Whether a row is written of an attempt with this outcome. -/
def isRecorded (outcome : Outcome) : Bool :=
  outcome.error?.all fun failure => failure.kind.isA .general

/-- The row of an attempt whose statement has this outcome. -/
def row (s sql : Text) (n : Nat) (outcome : Outcome) : Audit.Row Value where
  caller := "execute"
  template := .text s
  argCount := n
  sql := some sql
  ok := outcome.error?.isNone
  error := outcome.error?.map Failure.message

/-- The event that ends the transaction of a statement. -/
def closing : Outcome → EngineEvent
  | .failed _ => .rolledBack
  | _ => .committed

/-- The transaction of a finished query whose statement has this outcome. -/
def transaction (sql : Text) (outcome : Outcome) : List EngineEvent :=
  [.begun, .executed sql ⟨true⟩, outcome.closing]

/-- What is answered with an outcome: its rows, or its failure. -/
def Answers (outcome : Outcome) : Except Failure (List Record) → Prop
  | .error failure => outcome.error? = some failure
  | .ok records => outcome.Gives records

theorem answers_records (outcome : Outcome) : outcome.Answers outcome.records := by
  cases h : outcome.records with
  | ok records => exact gives_of_records_eq_ok h
  | error failure =>
    cases outcome with
    | failed e => exact congrArg some (Except.error.inj h)
    | _ => cases h

theorem failsTransiently_records (outcome : Outcome) :
    Retry.failsTransiently outcome.records = outcome.isTransient := by
  cases outcome <;> rfl

theorem toBool_records (outcome : Outcome) :
    outcome.records.toBool = true ↔ outcome.closing = .committed := by
  cases outcome <;> simp [records, closing, Except.toBool]

theorem closing_of_isTransient {outcome : Outcome} (h : outcome.isTransient = true) :
    outcome.closing = .rolledBack := by
  cases outcome with
  | failed failure => rfl
  | returned result => cases h
  | done => cases h

end Outcome

/-! ### An attempt -/

theorem Scope.IsTransaction.send {scope : Scope} (hscope : scope.IsTransaction) (sql : Text)
    (script : List Outcome) :
    scope.send Outcome.records sql script = ((outcomeAt script 0).records,
      (outcomeAt script 0).transaction sql, script.tail) := by
  have hhead := headD_drop script 0
  rw [List.drop_zero] at hhead
  simp only [Scope.send, hscope.enter, hscope.leave, hhead]
  cases outcomeAt script 0 <;> rfl

namespace Session

variable {installation : Installation} (hscope : installation.transaction.IsTransaction)
  {s sql : Text} {args : Value} (hsql : compileOf (.text s) args = .ok sql) (debug : Bool)
  (script : List Outcome) (number : Nat)

include hscope hsql

theorem script_next_execute :
    (Attempt.next (.execute installation) debug (.text s) args script).2 = script.tail := by
  rw [Attempt.next, Attempt.run, hsql]
  dsimp only [Method.execute]
  rw [hscope.send]

/-- An attempt takes the next outcome of the script, and runs the query in one transaction. -/
theorem ran_execute :
    ∃ shown : List LogLine,
      Attempt.ran (.execute installation) debug (.text s) args script number =
        ⟨(outcomeAt script number).records, some sql, [],
          shown.map .logged ++ ((outcomeAt script number).transaction sql).map .event,
          script.drop (number + 1)⟩ := by
  have hscript : (fun before =>
      (Attempt.next (.execute installation) debug (.text s) args before).2)^[number] script =
        script.drop number := by
    rw [funext fun before => script_next_execute hscope hsql debug before, iterate_tail]
  have hfirst : outcomeAt (script.drop number) 0 = outcomeAt script number := by
    rw [outcomeAt, outcomeAt, List.getElem?_drop, Nat.add_zero]
  refine ⟨⟨.compiler, "Built query: " ++ String.ofList sql⟩ ::
    if debug then [⟨.connection, "SQL: " ++ String.ofList sql⟩] else [], ?_⟩
  rw [Attempt.ran, Retry.nth, hscript, Attempt.next, Attempt.run, hsql]
  dsimp only [Method.execute]
  rw [hscope.send, hfirst, List.tail_drop]
  cases debug <;> rfl

theorem result_ran_execute :
    (Attempt.ran (.execute installation) debug (.text s) args script number).result =
      (outcomeAt script number).records := by
  obtain ⟨shown, hran⟩ := ran_execute hscope hsql debug script number
  rw [hran]

theorem acts_ran_execute :
    (Attempt.ran (.execute installation) debug (.text s) args script number).trace.acts =
      ((outcomeAt script number).transaction sql).map .event := by
  obtain ⟨shown, hran⟩ := ran_execute hscope hsql debug script number
  have hshown : Trace.acts (shown.map .logged) = [] := by
    rw [Trace.acts, List.filter_map]
    exact congrArg _ (List.filter_eq_nil_iff.mpr fun _ _ => Bool.false_ne_true)
  rw [hran, Trace.acts_append, hshown, Trace.acts_map_event]
  rfl

theorem isRecorded_ran_execute :
    (Attempt.ran (.execute installation) debug (.text s) args script number).isRecorded =
      (outcomeAt script number).isRecorded := by
  rw [Attempt.isRecorded, Attempt.error?, result_ran_execute hscope hsql]
  cases outcomeAt script number <;> rfl

theorem row_ran_execute (n : Nat) :
    (Attempt.ran (.execute installation) debug (.text s) args script number).row "execute"
      (.text s) n = (outcomeAt script number).row s sql n := by
  obtain ⟨shown, hran⟩ := ran_execute hscope hsql debug script number
  rw [hran]
  cases outcomeAt script number <;> rfl

/-! ### A call -/

/-- The transactions of a query for the statements up to the one with the number `last`, and a pause
after each but that one. -/
def transactions (sql : Text) (script : List Outcome) (last : Nat) : Trace :=
  (List.range last).flatMap (fun number =>
    ((outcomeAt script number).transaction sql).map .event ++
      [.slept (Number.Binary64.ofInt 2)]) ++
    ((outcomeAt script last).transaction sql).map .event

section Transactions

variable (sql : Text) (script : List Outcome) {last : Nat}

omit hscope hsql

theorem events_transactions (last : Nat) : (transactions sql script last).events =
    (List.range last).flatMap (fun number => (outcomeAt script number).transaction sql) ++
      (outcomeAt script last).transaction sql := by
  rw [transactions, Trace.events_append, Trace.events_map_event, Trace.events,
    List.filterMap_flatMap]
  rfl

theorem getLast?_events_transactions (last : Nat) :
    (transactions sql script last).events.getLast? = some (outcomeAt script last).closing := by
  rw [events_transactions, Outcome.transaction]
  simp

/-- Earlier transactions were rolled back, so that the last one alone may be committed. -/
theorem count_committed_transactions
    (hretried : ∀ number < last, (outcomeAt script number).isTransient = true) :
    (transactions sql script last).events.count .committed =
      if (outcomeAt script last).closing = .committed then 1 else 0 := by
  have hfront : ((List.range last).flatMap fun number =>
      (outcomeAt script number).transaction sql).count .committed = 0 := by
    rw [List.count_eq_zero, List.mem_flatMap]
    rintro ⟨number, hnumber, hmem⟩
    rw [Outcome.transaction,
      Outcome.closing_of_isTransient (hretried number (List.mem_range.mp hnumber))] at hmem
    simp at hmem
  rw [events_transactions, List.count_append, hfront, Nat.zero_add]
  cases outcomeAt script last <;> simp [Outcome.transaction, Outcome.closing]

end Transactions

/-- What a call comes to whose template is filled: a row of transactions up to the one with the
number `last`, with a pause after each of the others. The store may have refused the row of the last
one; its failure is then given in place of what the statement gave. -/
structure IsTransacted (session : Session) (installation : Installation) (s sql : Text)
    (args : Value) (n : Nat) (script : List Outcome) (last : Nat) (refusal : Option Failure)
    (given : Except Failure (List Record)) (after : Session) (trace : Trace) : Prop where
  last_lt : last < 3
  attempts : (session.report installation (.execute installation) (.text s) args n
    script).attempts.length = last + 1
  retried : ∀ number < last, (outcomeAt script number).isTransient = true
  ended : last = 2 ∨ (outcomeAt script last).isTransient = false ∨ refusal ≠ none
  acts : trace.acts = transactions sql script last
  settled : session.IsSettled installation.store ((outcomeAt script last).row s sql n)
    (outcomeAt script last).isRecorded (outcomeAt script last).Answers refusal given after
  returned : (∃ records, given = .ok records) ↔
    trace.events.getLast? = some .committed ∧ refusal = none
  committed : trace.events.count .committed ≤ 1

section Call

variable (session : Session) (n : Nat) {last : Nat}

theorem result_made_execute
    (h : ∀ e, ¬session.Refuses installation (.execute installation) (.text s) n
      (session.trailAt installation (.execute installation) (.text s) args n script number)
      (Attempt.ran (.execute installation) session.debug (.text s) args script number) e) :
    (session.made installation (.execute installation) (.text s) args n script number).result =
      (outcomeAt script number).records := by
  rw [made_eq, result_settle_of_not_refuses h, result_ran_execute hscope hsql]

theorem acts_made_execute :
    (session.made installation (.execute installation) (.text s) args n script
      number).trace.acts = ((outcomeAt script number).transaction sql).map .event := by
  rw [made_eq, trace_settle, acts_ran_execute hscope hsql]

variable (hcall : session.IsCall installation (.execute installation) (.text s) args n script last)

include hcall

/-- The attempts before the last one were written down, if they had to be, and gave what their
statements gave. -/
theorem result_made_of_lt {number : Nat} (h : number < last) :
    (session.made installation (.execute installation) (.text s) args n script number).result =
      (outcomeAt script number).records := by
  apply result_made_execute hscope hsql
  apply not_refuses_of_failsTransiently
  rw [← made_eq]
  exact hcall.again number h

theorem isTransient_of_lt {number : Nat} (h : number < last) :
    (outcomeAt script number).isTransient = true := by
  rw [← Outcome.failsTransiently_records, ← result_made_of_lt hscope hsql script session n hcall h]
  exact hcall.again number h

theorem acts_call_execute :
    (session.call installation (.execute installation) (.text s) args script).2.2.acts =
      transactions sql script last := by
  rw [hcall.call, Trace.acts_append, Trace.acts_flatMap, acts_made_execute hscope hsql,
    transactions]
  congr 1
  apply List.flatMap_congr
  intro number hnumber
  obtain ⟨e, he, -⟩ := Retry.exists_eq_error_of_failsTransiently
    (hcall.again number (List.mem_range.mp hnumber))
  rw [Trace.acts_append, acts_made_execute hscope hsql, he]
  rfl

theorem exists_isTransacted_of_isCall :
    ∃ refusal given, (session.call installation (.execute installation) (.text s) args script).1 =
        some given ∧
      IsTransacted session installation s sql args n script last refusal given
        (session.call installation (.execute installation) (.text s) args script).2.1
        (session.call installation (.execute installation) (.text s) args script).2.2 := by
  have hacts := acts_call_execute hscope hsql script session n hcall
  have hretried := fun number (h : number < last) =>
    isTransient_of_lt hscope hsql script session n hcall h
  have hattempts := congrArg List.length hcall.attempts
  rw [List.length_map, List.length_range] at hattempts
  obtain ⟨refusal, given, hgiven, hsettled⟩ := exists_isSettled
    (· = (outcomeAt script last).records) hcall
    (result_ran_execute hscope hsql session.debug script last)
  rw [isRecorded_ran_execute hscope hsql] at hsettled
  have hrow := row_ran_execute hscope hsql session.debug script last n
  refine ⟨refusal, given, hgiven, hcall.last_lt, hattempts, hretried, ?_, hacts, ?_, ?_, ?_⟩
  · by_cases hrefusal : refusal = none
    · rw [hcall.call, Option.some.injEq] at hgiven
      rcases hcall.ended with htwo | hlast
      · exact .inl (Nat.succ.inj htwo)
      · rw [hgiven, hsettled.gave hrefusal, Outcome.failsTransiently_records] at hlast
        exact .inr (.inl hlast)
    · exact .inr (.inr hrefusal)
  · rw [← hrow]
    exact hsettled.mono fun h => h ▸ Outcome.answers_records _
  · rw [← Trace.events_acts, hacts, getLast?_events_transactions, Option.some.injEq,
      ← Outcome.toBool_records]
    by_cases hrefusal : refusal = none
    · rw [hsettled.gave hrefusal]
      simp only [hrefusal, and_true]
      cases (outcomeAt script last).records <;> simp [Except.toBool]
    · obtain ⟨e, he⟩ := Option.ne_none_iff_exists'.mp hrefusal
      simp [(hsettled.refused e he).1, hrefusal]
  · rw [← Trace.events_acts, hacts, count_committed_transactions sql script hretried]
    split_ifs
    · exact Nat.le_refl 1
    · exact Nat.zero_le 1

end Call

/-! ### Calls -/

section Refused

omit hscope hsql

/-- What a call comes to whose template is not filled: one attempt, of which nothing is seen. -/
structure IsRefused (session : Session) (installation : Installation) (s : Text) (args : Value)
    (n : Nat) (script : List Outcome) (e : Failure) (refusal : Option Failure)
    (given : Except Failure (List Record)) (after : Session) (trace : Trace) : Prop where
  attempts : (session.report installation (.execute installation) (.text s) args n
    script).attempts.length = 1
  settled : session.IsSettled installation.store
    ⟨"execute", .text s, n, none, false, some e.message⟩ true (· = .error e) refusal given after
  trace : trace = []

theorem exists_isRefused (installation : Installation) (session : Session) {n : Nat}
    (hargs : argCount args = .ok n) {e : Failure} (he : compileOf (.text s) args = .error e) :
    ∃ refusal given, (session.call installation (.execute installation) (.text s) args script).1 =
        some given ∧
      IsRefused session installation s args n script e refusal given
        (session.call installation (.execute installation) (.text s) args script).2.1
        (session.call installation (.execute installation) (.text s) args script).2.2 := by
  obtain ⟨last, hcall⟩ := exists_isCall session installation (.execute installation) (.text s)
    script hargs (Nat.zero_lt_succ 2)
  obtain rfl := last_eq_zero_of_compileOf_eq_error session he hcall
  have hran : Attempt.ran (.execute installation) session.debug (.text s) args script 0 =
      ⟨.error e, none, [], [], script⟩ := ran_of_compileOf_eq_error he session.debug 0
  obtain ⟨refusal, given, hgiven, hsettled⟩ := exists_isSettled (· = .error e) hcall
    (by rw [hran])
  have hattempts := congrArg List.length hcall.attempts
  refine ⟨refusal, given, hgiven, hattempts, ?_, ?_⟩
  · rw [hran] at hsettled
    have hrecorded : (⟨.error e, none, [], [], script⟩ : Attempt (List Record)).isRecorded =
        true := isA_general_of_compileOf_eq_error he
    rwa [hrecorded] at hsettled
  · rw [hcall.call, made_eq, trace_settle, hran]
    rfl

end Refused

section Committed

omit hscope hsql

variable {session : Session} {n last : Nat} {refusal : Option Failure}
  {given : Except Failure (List Record)} {after : Session} {trace : Trace}

end Committed

section Main

omit hscope hsql

/-- A call is refused with the failure of the compiler before anything is done, or its query is run
in up to three transactions, of which the last one alone may be committed. It returns if that one is
committed, unless the store refuses the row of the last attempt: then it fails for that reason,
whatever has been committed. -/
theorem refused_or_transacted (session : Session) (hscope : installation.transaction.IsTransaction)
    (s : Text) {args : Value} {n : Nat} (hargs : argCount args = .ok n) (script : List Outcome) :
    (∀ e, compileOf (.text s) args = .error e → ∃ refusal given,
      (session.call installation (.execute installation) (.text s) args script).1 = some given ∧
        IsRefused session installation s args n script e refusal given
          (session.call installation (.execute installation) (.text s) args script).2.1
          (session.call installation (.execute installation) (.text s) args script).2.2) ∧
      ∀ sql, compileOf (.text s) args = .ok sql → ∃ last refusal given,
        (session.call installation (.execute installation) (.text s) args script).1 = some given ∧
          IsTransacted session installation s sql args n script last refusal given
            (session.call installation (.execute installation) (.text s) args script).2.1
            (session.call installation (.execute installation) (.text s) args script).2.2 := by
  constructor
  · intro e he
    exact exists_isRefused script installation session hargs he
  · intro sql hsql
    obtain ⟨last, hcall⟩ := exists_isCall session installation (.execute installation) (.text s)
      script hargs (Nat.zero_lt_succ 2)
    exact ⟨last, exists_isTransacted_of_isCall hscope hsql script session n hcall⟩

theorem refused_or_transacted_lost_connection :
    ∃ last refusal given after trace,
      IsTransacted ⟨"mysql".toList, false, true, none, []⟩ .usual "SELECT ?d".toList
        "SELECT 1".toList (.list [.int 1]) 1 [.failed (.statement .operational "gone away".toList),
          .returned ⟨["1"], [[.int 1]]⟩] last refusal given after trace := by
  obtain ⟨last, refusal, given, -, h⟩ :=
    (refused_or_transacted ⟨"mysql".toList, false, true, none, []⟩
      (show Installation.usual.transaction.IsTransaction from Scope.isTransaction_transaction)
      "SELECT ?d".toList (show argCount (.list [.int 1]) = .ok 1 from rfl)
      [.failed (.statement .operational "gone away".toList), .returned ⟨["1"], [[.int 1]]⟩]).2
      "SELECT 1".toList (by decide +kernel)
  exact ⟨last, refusal, given, _, _, h⟩

/-- A template with a character that the usual store has no form for, in a block. -/
def unstorable : Text := "SELECT 1\x7b ".toList ++ Char.ofNat 0x10dcff :: "?\x7d".toList

/-- A block that is dropped has no part in the query, which is committed. It has one in the row of
the attempt, which is refused. -/
theorem exists_committed_not_returned :
    let session : Session := ⟨"mysql".toList, false, true, none, []⟩
    let call := session.call .usual (.execute .usual) (.text unstorable) (.list [.skip]) [.done]
    compileOf (.text unstorable) (.list [.skip]) = .ok "SELECT 1".toList ∧
      call.2.2.events = [.begun, .executed "SELECT 1".toList ⟨true⟩, .committed] ∧
        call.1 = some (.error (.unencodable ⟨0xdcff, 10, 10⟩)) ∧ call.2.1.trail = [] := by
  have hsql : compileOf (.text unstorable) (.list [.skip]) = .ok "SELECT 1".toList := by
    decide +kernel
  have hrun : Attempt.run (.execute .usual) false (.text unstorable) (.list [.skip]) [.done] =
      ⟨.ok [], some "SELECT 1".toList, [], [.logged ⟨.compiler, "Built query: SELECT 1"⟩,
        .event .begun, .event (.executed "SELECT 1".toList ⟨true⟩), .event .committed], []⟩ := by
    rw [Attempt.run, hsql]
    rfl
  have hmade : made ⟨"mysql".toList, false, true, none, []⟩ .usual (.execute .usual)
      (.text unstorable) (.list [.skip]) 1 [.done] 0 =
        ⟨.error (.unencodable ⟨0xdcff, 10, 10⟩), some "SELECT 1".toList, [],
          [.logged ⟨.compiler, "Built query: SELECT 1"⟩, .event .begun,
            .event (.executed "SELECT 1".toList ⟨true⟩), .event .committed], []⟩ := by
    rw [made, Retry.nth, Function.iterate_zero, id, attempt, hrun]
    rfl
  obtain ⟨last, hcall⟩ := exists_isCall ⟨"mysql".toList, false, true, none, []⟩ .usual
    (.execute .usual) (.text unstorable) [.done] (show argCount (.list [.skip]) = .ok 1 from rfl)
    (Nat.zero_lt_succ 2)
  have hlast : last = 0 := by
    by_contra hne
    have hagain := hcall.again 0 (Nat.pos_of_ne_zero hne)
    rw [hmade] at hagain
    cases hagain
  subst hlast
  refine ⟨hsql, ?_⟩
  rw [hcall.call, trailAt_succ, hmade]
  exact ⟨rfl, rfl, rfl⟩

end Main

end Session

end QueryTemplate
