import QueryTemplate.Proofs.Connection.Trail

/-! Auditing and debugging only add. Of two sessions that differ in nothing but what they audit and
show, each step is answered alike and does the same, in the same order: the one keeps rows that the
other does not keep, and shows queries that the other does not show. -/

namespace QueryTemplate

open Failure Template

/-! ### Shown queries -/

/-- Whether a session shows this only if it is debugged. -/
def Occurrence.isShown : Occurrence → Bool
  | .logged line => line.source = .connection
  | _ => false

namespace Trace

/-- A trace without the queries that are shown. -/
def unshown (trace : Trace) : Trace := trace.filter fun occurrence => !occurrence.isShown

/-- The warnings before further attempts. -/
def warnings (trace : Trace) : List String :=
  trace.filterMap fun
    | .logged ⟨.retry, message⟩ => some message
    | _ => none

theorem unshown_append (front back : Trace) :
    unshown (front ++ back) = unshown front ++ unshown back := List.filter_append front back

theorem unshown_flatMap {β : Type} (all : List β) (f : β → Trace) :
    unshown (all.flatMap f) = all.flatMap fun b => unshown (f b) := List.filter_flatMap

/-- What does not look at shown queries gives the same without them. -/
theorem filterMap_unshown {β : Type} {f : Occurrence → Option β}
    (hf : ∀ occurrence, occurrence.isShown = true → f occurrence = none) (trace : Trace) :
    trace.unshown.filterMap f = trace.filterMap f := by
  rw [unshown, List.filterMap_filter]
  congr 1
  funext occurrence
  cases hshown : occurrence.isShown with
  | false => rfl
  | true => exact (hf occurrence hshown).symm

theorem events_unshown (trace : Trace) : events (unshown trace) = events trace := by
  apply filterMap_unshown
  intro occurrence hshown
  cases occurrence with
  | event | slept => cases hshown
  | logged line => rfl

theorem sleeps_unshown (trace : Trace) : sleeps (unshown trace) = sleeps trace := by
  apply filterMap_unshown
  intro occurrence hshown
  cases occurrence with
  | event | slept => cases hshown
  | logged line => rfl

theorem warnings_unshown (trace : Trace) : warnings (unshown trace) = warnings trace := by
  apply filterMap_unshown
  intro occurrence hshown
  cases occurrence with
  | event | slept => cases hshown
  | logged line =>
    obtain ⟨source, message⟩ := line
    cases source with
    | connection => rfl
    | compiler | retry => cases hshown

/-- Whether the queries that a trace shows are this one, and shown for the sake of debugging. -/
def ShowsOnly (debug : Bool) (sql : Option Text) (trace : Trace) : Prop :=
  ∀ line, Occurrence.logged line ∈ trace → line.source = .connection →
    debug = true ∧ ∃ t, sql = some t ∧ line.message = "SQL: " ++ String.ofList t

theorem showsOnly_nil (debug : Bool) (sql : Option Text) : ShowsOnly debug sql [] := by
  intro line hline
  cases hline

theorem showsOnly_append {debug : Bool} {sql : Option Text} {front back : Trace}
    (hfront : ShowsOnly debug sql front) (hback : ShowsOnly debug sql back) :
    ShowsOnly debug sql (front ++ back) := by
  intro line hline
  rcases List.mem_append.mp hline with h | h
  · exact hfront line h
  · exact hback line h

end Trace

variable {α : Type}

namespace Attempt

variable (method : Method α) (debug : Bool) (template args : Value) (script : List Outcome)
  (number : Nat)

/-- Without shown queries an attempt looks as if it was not debugged. -/
theorem unshown_ran : (ran method debug template args script number).trace.unshown =
    (ran method false template args script number).trace.unshown := by
  obtain ⟨before, hran⟩ := exists_ran_eq_run method template args script number
  rw [hran, hran, run, run]
  cases compileOf template args with
  | error failure => rfl
  | ok sql => cases debug <;> simp [Trace.unshown, Occurrence.isShown]

theorem showsOnly_ran : Trace.ShowsOnly debug (compileOf template args).toOption
    (ran method debug template args script number).trace := by
  obtain ⟨before, hran⟩ := exists_ran_eq_run method template args script number
  rw [hran, run]
  cases compileOf template args with
  | error failure => exact Trace.showsOnly_nil debug none
  | ok sql =>
    intro line hline hsource
    simp only [List.mem_append, List.mem_cons, List.mem_map, reduceCtorEq, and_false,
      exists_false, or_false] at hline
    rcases hline with hbuilt | hshown
    · cases hbuilt
      cases hsource
    · cases debug with
      | false => cases hshown
      | true =>
        obtain rfl := Occurrence.logged.inj (List.mem_singleton.mp hshown)
        exact ⟨rfl, sql, rfl, rfl⟩

end Attempt

namespace Session

/-! ### One call -/

theorem showsOnly_pause (debug : Bool) (sql : Option Text) (caller : String) (tries number : Nat)
    (result : Except Failure α) :
    Trace.ShowsOnly debug sql (pause caller tries number result) := by
  cases result with
  | ok a => exact Trace.showsOnly_nil debug sql
  | error failure =>
    intro line hline hsource
    simp only [pause, List.mem_cons, reduceCtorEq, List.not_mem_nil, or_false,
      Occurrence.logged.injEq] at hline
    rw [hline] at hsource
    cases hsource

section Attempts

variable {session session' : Session} {installation : Installation} {method : Method α} {s : Text}
  {args : Value} {n : Nat} {script : List Outcome} {last : Nat}

theorem showsOnly_call (hcall : session.IsCall installation method (.text s) args n script last) :
    Trace.ShowsOnly session.debug
      (session.call installation method (.text s) args script).2.1.lastSql
      (session.call installation method (.text s) args script).2.2 := by
  have hmade (number : Nat) : Trace.ShowsOnly session.debug (compileOf (.text s) args).toOption
      (session.made installation method (.text s) args n script number).trace := by
    rw [made_eq, trace_settle]
    exact Attempt.showsOnly_ran method session.debug (.text s) args script number
  rw [lastSql_call hcall, hcall.call]
  apply Trace.showsOnly_append _ (hmade last)
  intro line hline
  obtain ⟨number, -, hnumber⟩ := List.mem_flatMap.mp hline
  exact Trace.showsOnly_append (hmade number) (showsOnly_pause _ _ _ _ _ _) line hnumber

/-- An attempt of one session looks as that of any other, without shown queries. -/
theorem unshown_made (session session' : Session) (number : Nat) :
    (session.made installation method (.text s) args n script number).trace.unshown =
      (session'.made installation method (.text s) args n script number).trace.unshown := by
  rw [made_eq, trace_settle, Attempt.unshown_ran, made_eq, trace_settle,
    Attempt.unshown_ran _ session'.debug]

variable (session session' : Session) (hargs : argCount args = .ok n)
  (htakes : ∀ row ∈ method.rows s args script, installation.store.Takes row)

include hargs htakes

theorem last_eq_of_isCall {last' : Nat}
    (hcall : session.IsCall installation method (.text s) args n script last)
    (hcall' : session'.IsCall installation method (.text s) args n script last') :
    last = last' := by
  have hplaces := hcall.places.symm.trans (places_of_takes hargs htakes)
  have hlength := congrArg List.length
    (hplaces.trans ((places_of_takes hargs htakes).symm.trans hcall'.places))
  rw [List.length_range, List.length_range] at hlength
  exact Nat.succ.inj hlength

theorem result_made_eq {number : Nat} (hnumber : number ∈ method.places s args script) :
    (session.made installation method (.text s) args n script number).result =
      (session'.made installation method (.text s) args n script number).result := by
  rw [result_made_of_takes hargs htakes session hnumber,
    result_made_of_takes hargs htakes session' hnumber]

/-- Two sessions whose rows are taken make the same attempts, and show the same but for shown
queries. -/
theorem call_alike (htries : 0 < method.tries) :
    (session.call installation method (.text s) args script).1 =
        (session'.call installation method (.text s) args script).1 ∧
      (session.call installation method (.text s) args script).2.1.lastSql =
        (session'.call installation method (.text s) args script).2.1.lastSql ∧
      (session.call installation method (.text s) args script).2.2.unshown =
        (session'.call installation method (.text s) args script).2.2.unshown := by
  obtain ⟨last, hcall⟩ := exists_isCall session installation method (.text s) script hargs htries
  obtain ⟨last', hcall'⟩ :=
    exists_isCall session' installation method (.text s) script hargs htries
  obtain rfl := last_eq_of_isCall session session' hargs htakes hcall hcall'
  have hresult {number : Nat} (h : number ≤ last) :
      (session.made installation method (.text s) args n script number).result =
        (session'.made installation method (.text s) args n script number).result := by
    apply result_made_eq session session' hargs htakes
    rw [← places_of_takes hargs htakes, hcall.places, List.mem_range]
    exact Nat.lt_succ_of_le h
  refine ⟨?_, by rw [lastSql_call hcall, lastSql_call hcall'], ?_⟩
  · rw [hcall.call, hcall'.call]
    exact congrArg some (hresult le_rfl)
  · rw [hcall.call, hcall'.call]
    dsimp only
    rw [Trace.unshown_append, Trace.unshown_append, unshown_made session session' last,
      Trace.unshown_flatMap, Trace.unshown_flatMap]
    congr 1
    apply List.flatMap_congr
    intro number hnumber
    rw [Trace.unshown_append, Trace.unshown_append, unshown_made session session',
      hresult (List.mem_range.mp hnumber).le]

end Attempts

end Session

/-! ### One step -/

/-- A step with what it answered, the session after it and what was seen of it. -/
abbrev Taken := Except Failure Answer × Session × Trace

/-- Two sessions take a step alike: with the same answer, the same query kept, the same events, the
same pauses and the same warnings. Nothing but shown queries tells what is seen of them apart. -/
structure AreAlike (taken taken' : Taken) : Prop where
  answer : taken.1 = taken'.1
  lastSql : taken.2.1.lastSql = taken'.2.1.lastSql
  unshown : taken.2.2.unshown = taken'.2.2.unshown
  events : taken.2.2.events = taken'.2.2.events
  sleeps : taken.2.2.sleeps = taken'.2.2.sleeps
  warnings : taken.2.2.warnings = taken'.2.2.warnings

/-- What a session keeps and shows of a step: no row unless it is audited, and no query unless it
is debugged. -/
structure KeepsOnly (debug audited : Bool) (trail : Audit.Trail) (taken : Taken) : Prop where
  trail : audited = false → taken.2.1.trail = trail
  shown : taken.2.2.ShowsOnly debug taken.2.1.lastSql

theorem areAlike_of_unshown_eq {taken taken' : Taken} (hanswer : taken.1 = taken'.1)
    (hlastSql : taken.2.1.lastSql = taken'.2.1.lastSql)
    (hunshown : taken.2.2.unshown = taken'.2.2.unshown) : AreAlike taken taken' where
  answer := hanswer
  lastSql := hlastSql
  unshown := hunshown
  events := by rw [← Trace.events_unshown, hunshown, Trace.events_unshown]
  sleeps := by rw [← Trace.sleeps_unshown, hunshown, Trace.sleeps_unshown]
  warnings := by rw [← Trace.warnings_unshown, hunshown, Trace.warnings_unshown]

/-- Whether a step does not depend on the trail. Listing the rows does, and so does a call with a
template that is no text: the trail may be unable to keep it. -/
def Step.ignoresTrail : Step → Bool
  | .execute template _ _ | .fetch template _ _ => template.isText
  | .entries => false
  | _ => true

namespace Session

variable {session session' : Session} {installation : Installation}

section Call

variable (method : Method α) (htries : 0 < method.tries) (make : α → Answer) (s : Text)
  (args : Value) (script : List Outcome)

include htries

theorem areAlike_call (hlastSql : session.lastSql = session'.lastSql)
    (htakes : ∀ row ∈ method.rows s args script, installation.store.Takes row) :
    AreAlike (answer make (session.call installation method (.text s) args script).1,
        (session.call installation method (.text s) args script).2)
      (answer make (session'.call installation method (.text s) args script).1,
        (session'.call installation method (.text s) args script).2) := by
  cases hargs : argCount args with
  | error failure =>
    rw [call, call, hargs]
    exact areAlike_of_unshown_eq rfl hlastSql rfl
  | ok n =>
    obtain ⟨hanswer, hkept, hunshown⟩ :=
      call_alike session session' hargs htakes htries
    exact areAlike_of_unshown_eq (congrArg (answer make) hanswer) hkept hunshown

theorem keepsOnly_call : KeepsOnly session.debug session.audited session.trail
    (answer make (session.call installation method (.text s) args script).1,
      (session.call installation method (.text s) args script).2) := by
  cases hargs : argCount args with
  | error failure =>
    rw [call, hargs]
    exact ⟨fun _ => rfl, Trace.showsOnly_nil _ _⟩
  | ok n =>
    obtain ⟨last, hcall⟩ := exists_isCall session installation method (.text s) script hargs htries
    exact ⟨trail_call_of_audited_eq_false hargs, showsOnly_call hcall⟩

end Call

/-- A step is taken alike, whatever is audited and shown. -/
theorem areAlike_step (hlastSql : session.lastSql = session'.lastSql) {step : Step}
    (hstep : step.ignoresTrail = true)
    (htakes : ∀ row ∈ step.rows installation, installation.store.Takes row) :
    AreAlike (session.step installation step) (session'.step installation step) := by
  cases step with
  | execute template args script =>
    cases template with
    | text s => exact areAlike_call _ (Nat.zero_lt_succ 2) .records s args script hlastSql htakes
    | _ => cases hstep
  | fetch template args script =>
    cases template with
    | text s => exact areAlike_call _ Nat.one_pos .table s args script hlastSql htakes
    | _ => cases hstep
  | compile template args =>
    rw [step, step]
    cases compileOf template args with
    | ok sql => exact areAlike_of_unshown_eq rfl hlastSql rfl
    | error failure => exact areAlike_of_unshown_eq rfl hlastSql rfl
  | marker => exact areAlike_of_unshown_eq rfl hlastSql rfl
  | close => exact areAlike_of_unshown_eq rfl hlastSql rfl
  | entries => cases hstep

theorem keepsOnly_step (session : Session) {step : Step} (hstep : step.ignoresTrail = true) :
    KeepsOnly session.debug session.audited session.trail (session.step installation step) := by
  cases step with
  | execute template args script =>
    cases template with
    | text s => exact keepsOnly_call _ (Nat.zero_lt_succ 2) .records s args script
    | _ => cases hstep
  | fetch template args script =>
    cases template with
    | text s => exact keepsOnly_call _ Nat.one_pos .table s args script
    | _ => cases hstep
  | compile template args =>
    rw [step]
    cases compileOf template args with
    | error failure => exact ⟨fun _ => rfl, Trace.showsOnly_nil _ _⟩
    | ok sql =>
      refine ⟨fun _ => rfl, ?_⟩
      intro line hline hsource
      obtain rfl := Occurrence.logged.inj (List.mem_singleton.mp hline)
      cases hsource
  | marker => exact ⟨fun _ => rfl, Trace.showsOnly_nil _ _⟩
  | close =>
    refine ⟨fun _ => rfl, ?_⟩
    intro line hline
    cases List.mem_singleton.mp hline
  | entries => cases hstep

/-! ### A row of steps -/

theorem areAlike_run {steps : List Step} (hsteps : ∀ step ∈ steps, step.ignoresTrail = true)
    (htakes : ∀ step ∈ steps, ∀ row ∈ step.rows installation, installation.store.Takes row)
    (hlastSql : session.lastSql = session'.lastSql) :
    List.Forall₂ AreAlike (session.run installation steps) (session'.run installation steps) := by
  -- The sessions agree on the query that they keep after every step.
  induction steps generalizing session session' with
  | nil => exact .nil
  | cons step rest ih =>
    rw [List.forall_mem_cons] at hsteps htakes
    have halike := areAlike_step hlastSql hsteps.1 htakes.1
    exact .cons halike (ih hsteps.2 htakes.2 halike.lastSql)

theorem keepsOnly_run (session : Session) {steps : List Step}
    (hsteps : ∀ step ∈ steps, step.ignoresTrail = true) :
    ∀ taken ∈ session.run installation steps,
      KeepsOnly session.debug session.audited session.trail taken := by
  induction steps generalizing session with
  | nil =>
    intro taken htaken
    cases htaken
  | cons step rest ih =>
    rw [List.forall_mem_cons] at hsteps
    have hkeeps : KeepsOnly session.debug session.audited session.trail
        (session.step installation step) := keepsOnly_step session hsteps.1
    have hrest := ih (session.step installation step).2.1 hsteps.2
    rw [debug_step, audited_step] at hrest
    rw [run, List.forall_mem_cons]
    refine ⟨hkeeps, fun taken htaken => ?_⟩
    obtain ⟨htrail, hshown⟩ := hrest taken htaken
    exact ⟨fun haudited => (htrail haudited).trans (hkeeps.trail haudited), hshown⟩

/-- Sessions opened alike but for what they audit and show take all steps alike, if their rows are
taken. Each of them keeps rows only if it is audited, and shows queries only if it is debugged. -/
theorem opened_transparent (hopened : installation.store.opened = .ok ()) (url : Text)
    (engine : EngineOptions) (debug debug' audited audited' : Bool) (trail trail' : Audit.Trail)
    {steps : List Step} (hsteps : ∀ step ∈ steps, step.ignoresTrail = true)
    (htakes : ∀ step ∈ steps, ∀ row ∈ step.rows installation, installation.store.Takes row) :
    (∃ failure trace,
      Session.open installation url ⟨engine, debug, audited⟩ trail = (.error failure, trace) ∧
      Session.open installation url ⟨engine, debug', audited'⟩ trail' = (.error failure, trace)) ∨
    ∃ session session' trace,
      Session.open installation url ⟨engine, debug, audited⟩ trail = (.ok session, trace) ∧
      Session.open installation url ⟨engine, debug', audited'⟩ trail' = (.ok session', trace) ∧
      List.Forall₂ AreAlike (session.run installation steps) (session'.run installation steps) ∧
      (∀ taken ∈ session.run installation steps, KeepsOnly debug audited trail taken) ∧
      ∀ taken ∈ session'.run installation steps, KeepsOnly debug' audited' trail' taken := by
  cases hbackend : installation.supportedBackend url with
  | error failure =>
    refine .inl ⟨failure, [], ?_, ?_⟩ <;> rw [Session.open, admitted, hbackend, error_bind]
  | ok backend =>
    have hopen (debug audited : Bool) (trail : Audit.Trail) :
        Session.open installation url ⟨engine, debug, audited⟩ trail =
          ((installation.create url engine).map fun _ => ⟨backend, debug, audited, none, trail⟩,
            [.event (.created engine)]) :=
      open_of_admitted_eq_ok
        (admitted_eq_ok_iff.mpr ⟨backend, hbackend, fun _ => hopened, rfl⟩)
    rw [hopen, hopen]
    cases installation.create url engine with
    | error failure => exact .inl ⟨failure, _, rfl, rfl⟩
    | ok made =>
      exact .inr ⟨_, _, _, rfl, rfl, areAlike_run hsteps htakes rfl, keepsOnly_run _ hsteps,
        keepsOnly_run _ hsteps⟩

theorem opened_transparent_lost_connection :
    List.Forall₂ AreAlike
      ((⟨"mysql".toList, true, true, none, []⟩ : Session).run .usual
        [.execute (.text "SELECT ?d".toList) (.list [.int 1])
          [.failed (.statement .operational "gone away".toList)], .close])
      ((⟨"mysql".toList, false, false, none, []⟩ : Session).run .usual
        [.execute (.text "SELECT ?d".toList) (.list [.int 1])
          [.failed (.statement .operational "gone away".toList)], .close]) := by
  have hbackend : Installation.usual.supportedBackend "mysql://db".toList =
      .ok "mysql".toList := by decide +kernel
  have hopen (debug audited : Bool) :
      Session.open .usual "mysql://db".toList ⟨{}, debug, audited⟩ [] =
        (.ok ⟨"mysql".toList, debug, audited, none, []⟩, [.event (.created {})]) :=
    open_of_admitted_eq_ok (admitted_eq_ok_iff.mpr ⟨_, hbackend, fun _ => rfl, rfl⟩)
  have hsteps : ∀ step ∈ [Step.execute (.text "SELECT ?d".toList) (.list [.int 1])
      [.failed (.statement .operational "gone away".toList)], .close],
        step.ignoresTrail = true := by
    simp only [List.forall_mem_cons]
    exact ⟨rfl, rfl, List.forall_mem_nil _⟩
  have hkept : ∀ row ∈ [Step.execute (.text "SELECT ?d".toList) (.list [.int 1])
      [.failed (.statement .operational "gone away".toList)], .close].flatMap (Step.rows .usual),
      (∀ s ∈ row.texts, Text.firstLone? s = none) ∧ 0 ≤ row.argCount ∧ row.argCount < 2 ^ 63 := by
    decide +kernel
  have htakes : ∀ step ∈ [Step.execute (.text "SELECT ?d".toList) (.list [.int 1])
      [.failed (.statement .operational "gone away".toList)], .close],
        ∀ row ∈ step.rows .usual, Audit.Store.usual.Takes row := by
    intro step hstep row hrow
    have hrow := hkept row (List.mem_flatMap_of_mem hstep hrow)
    exact (Audit.Store.keeps_usual hrow.1 hrow.2).takes
  have hstore : Installation.usual.store.opened = .ok () := rfl
  rcases opened_transparent hstore "mysql://db".toList {} true false true false [] [] hsteps
      htakes with
    ⟨failure, trace, hfailed, -⟩ | ⟨session, session', trace, hopened, hopened', halike, -⟩
  · rw [hopen] at hfailed
    cases hfailed
  · rw [hopen] at hopened hopened'
    cases hopened
    cases hopened'
    exact halike

end Session

end QueryTemplate
