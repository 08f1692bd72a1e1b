import QueryTemplate.Http.Service
import QueryTemplate.Proofs.Number.Overflow
import QueryTemplate.Proofs.Template.Binding

/-! Which failures leave a template. All of them are failures of the template but one: a slot for a
number lets an integer beyond the range of binary numbers overflow. A client gets an answer of 400
for the former and of 500 for the latter. -/

namespace QueryTemplate.Template

open Segment Failure Number

/-- The leftmost slot without a text asks for a number, and its argument is an integer from the
middle between the greatest binary number and `2 ^ 1024` on. -/
def Overflows (s : Text) (args : List Value) : Prop :=
  validate s args.length = .ok () ∧ ∃ front number back n,
    pieces true (skipsOf args) s = front ++ .slot number ['f'] :: back ∧
      (∃ x, joined args front = .ok x) ∧ args[number]? = some (.int n) ∧
        2 ^ 1024 - 2 ^ 970 ≤ n.natAbs

theorem isA_template_of_validate_eq_error {s : Text} {given : Nat} {e : Failure}
    (h : validate s given = .error e) : e.kind.isA .template = true := by
  have hverdict := verdict_validate s given
  rw [h] at hverdict
  cases hverdict with
  | nested | crowded | miscounted => rfl

theorem isTooLarge_iff (v : Value) :
    v.isTooLarge = true ↔ ∃ n, v = .int n ∧ 2 ^ 1024 - 2 ^ 970 ≤ n.natAbs := by
  cases v with
  | int n =>
    rw [Value.isTooLarge, Bool.not_eq_true', ← Bool.not_eq_true, Binary64.isFinite_ofInt_iff,
      not_lt]
    constructor
    · exact fun h => ⟨n, rfl, h⟩
    · rintro ⟨m, hm, h⟩
      rwa [Value.int.inj hm]
  | _ =>
    refine iff_of_false (fun h => by cases h) ?_
    rintro ⟨n, hn, -⟩
    cases hn

/-- An overflow is reported as such. -/
theorem compile_of_overflows {s : Text} {args : List Value} (h : Overflows s args) :
    compile s args = .error .integerTooLarge := by
  obtain ⟨hvalid, front, number, back, n, hsplit, hfront, harg, hn⟩ := h
  rw [compile_eq_error_iff hvalid]
  refine ⟨front, number, ['f'], back, hsplit, hfront, ?_⟩
  rw [slotText, harg]
  exact Tag.render_number_of_isTooLarge ((isTooLarge_iff (.int n)).mpr ⟨n, rfl, hn⟩)

/-- An overflow is no failure of the template. -/
theorem not_refused_of_overflows {s : Text} {args : List Value} (h : Overflows s args) :
    ¬∃ e, compile s args = .error e ∧ e.kind.isA .template = true := by
  rintro ⟨e, he, hkind⟩
  rw [compile_of_overflows h] at he
  rw [← Except.error.inj he] at hkind
  exact absurd hkind (by decide)

/-- A failure that is none of the template is an overflow, or an argument holds an integer that
cannot be written. -/
theorem isA_template_or_unwritable_or_overflows {s : Text} {args : List Value} {e : Failure}
    (h : compile s args = .error e) :
    e.kind.isA .template = true ∨
      (e = .integerTooLong ∧ ∃ v ∈ args, v.writable = false) ∨ Overflows s args := by
  cases hvalid : validate s args.length with
  | error e' =>
    rw [compile, hvalid] at h
    rw [← Except.error.inj h]
    exact Or.inl (isA_template_of_validate_eq_error hvalid)
  | ok _ =>
    obtain ⟨front, number, run, back, hsplit, hfront, htext⟩ := (compile_eq_error_iff hvalid e).mp h
    have hlt := number_lt_of_slot_mem hvalid hsplit
    rcases slotText_eq_error hlt htext with rfl | ⟨tag, htag, hrender⟩
    · exact Or.inl rfl
    · rcases Tag.render_eq_error hrender with (hkind | ⟨rfl, hnot⟩) | ⟨rfl, hlarge, -⟩
      · exact Or.inl hkind
      · exact Or.inr (Or.inl ⟨rfl, _, List.getElem_mem hlt, hnot⟩)
      · obtain ⟨n, hint, hn⟩ := (isTooLarge_iff _).mp hlarge
        rw [Tag.run_eq_of_ofRun? htag] at hsplit
        exact Or.inr (Or.inr ⟨hvalid, front, number, back, n, hsplit, hfront,
          by rw [List.getElem?_eq_getElem hlt, hint], hn⟩)

/-- A failure that is none of the template is an overflow, if every integer can be written. -/
theorem isA_template_or_overflows {s : Text} {args : List Value}
    (hargs : ∀ v ∈ args, v.writable = true) {e : Failure} (h : compile s args = .error e) :
    e.kind.isA .template = true ∨ Overflows s args := by
  rcases isA_template_or_unwritable_or_overflows h with hkind | ⟨-, v, hv, hnot⟩ | hover
  · exact Or.inl hkind
  · rw [hargs v hv] at hnot
    cases hnot
  · exact Or.inr hover

theorem compile_eq_integerTooLarge_iff {s : Text} {args : List Value}
    (hargs : ∀ v ∈ args, v.writable = true) :
    compile s args = .error .integerTooLarge ↔ Overflows s args := by
  constructor
  · intro h
    rcases isA_template_or_overflows hargs h with hkind | h
    · exact absurd hkind (by decide)
    · exact h
  · exact compile_of_overflows

/-- A template is filled or refused, if every integer can be written and none overflows. -/
theorem ok_or_refused_iff {s : Text} {args : List Value} (hargs : ∀ v ∈ args, v.writable = true) :
    ((∃ t, compile s args = .ok t) ∨
      ∃ e, compile s args = .error e ∧ e.kind.isA .template = true) ↔ ¬Overflows s args := by
  constructor
  · rintro (⟨t, h⟩ | hrefused) hover
    · rw [compile_of_overflows hover] at h
      cases h
    · exact not_refused_of_overflows hover hrefused
  · intro hnot
    cases hcompile : compile s args with
    | ok t => exact Or.inl ⟨t, rfl⟩
    | error e =>
      have hkind := (isA_template_or_overflows hargs hcompile).resolve_right hnot
      exact Or.inr ⟨e, rfl, hkind⟩

/-! ### What a client is told -/

section Client

variable {server : Http.Server} {request : Http.Request} {s : Text} {args : List Value}
  (hrequest : request.payload server = .ok ⟨s, args⟩)

include hrequest

theorem status_of_compile_eq_ok {t : Text} (h : compile s args = .ok t) :
    (Http.respond (Http.compile server request)).status = 200 := by
  rw [Http.compile, hrequest, ok_bind, h]
  rfl

theorem status_of_compile_eq_error {e : Failure} (h : compile s args = .error e) :
    (Http.respond (Http.compile server request)).status = (Http.Response.ofFailure e).status := by
  rw [Http.compile, hrequest, ok_bind, h]
  rfl

omit hrequest in
theorem status_ofFailure_of_isA_template {e : Failure} (h : e.kind.isA .template = true) :
    (Http.Response.ofFailure e).status = 400 := by
  rw [Http.Response.ofFailure, if_pos (Kind.isA_value_of_isA_template h)]

/-- A client is told of an overflow as of a failure of the service. -/
theorem status_eq_500_iff (hargs : ∀ v ∈ args, v.writable = true) :
    (Http.respond (Http.compile server request)).status = 500 ↔ Overflows s args := by
  constructor
  · intro hstatus
    by_contra hnot
    rcases (ok_or_refused_iff hargs).mpr hnot with ⟨t, h⟩ | ⟨e, h, hkind⟩
    · rw [status_of_compile_eq_ok hrequest h] at hstatus
      cases hstatus
    · rw [status_of_compile_eq_error hrequest h, status_ofFailure_of_isA_template hkind] at hstatus
      cases hstatus
  · intro hover
    rw [status_of_compile_eq_error hrequest (compile_of_overflows hover)]
    rfl

theorem status_eq_400_iff (hargs : ∀ v ∈ args, v.writable = true) :
    (Http.respond (Http.compile server request)).status = 400 ↔
      ∃ e, compile s args = .error e ∧ e.kind.isA .template = true := by
  cases h : compile s args with
  | ok t =>
    rw [status_of_compile_eq_ok hrequest h]
    refine iff_of_false (by decide) ?_
    rintro ⟨e, he, -⟩
    cases he
  | error e =>
    rw [status_of_compile_eq_error hrequest h]
    rcases isA_template_or_overflows hargs h with hkind | hover
    · exact iff_of_true (status_ofFailure_of_isA_template hkind) ⟨e, rfl, hkind⟩
    · have hrefused := not_refused_of_overflows hover
      rw [h] at hrefused
      obtain rfl := Except.error.inj (h.symm.trans (compile_of_overflows hover))
      exact iff_of_false (by decide) hrefused

end Client

/-- If every integer can be written, a template is filled or refused with a failure of the template,
except that an overflow goes through; a client is told of a refusal with 400 and of an overflow
with 500. -/
theorem refused_iff_not_overflows (s : Text) (args : List Value)
    (hargs : ∀ v ∈ args, v.writable = true) :
    (((∃ t, compile s args = .ok t) ∨
        ∃ e, compile s args = .error e ∧ e.kind.isA .template = true) ↔ ¬Overflows s args) ∧
      (compile s args = .error .integerTooLarge ↔ Overflows s args) ∧
      ∀ (server : Http.Server) (request : Http.Request),
        request.payload server = .ok ⟨s, args⟩ →
        ((Http.respond (Http.compile server request)).status = 400 ↔
          ∃ e, compile s args = .error e ∧ e.kind.isA .template = true) ∧
        ((Http.respond (Http.compile server request)).status = 500 ↔ Overflows s args) :=
  ⟨ok_or_refused_iff hargs, compile_eq_integerTooLarge_iff hargs,
    fun _ _ hrequest => ⟨status_eq_400_iff hrequest hargs, status_eq_500_iff hrequest hargs⟩⟩

/-! ### An integer of 310 digits -/

/-- An integer that can be written and that no binary number is near to. -/
def longInteger : Value := .int (10 ^ 309)

theorem writable_longInteger : ∀ v ∈ [longInteger], v.writable = true := by
  intro v hv
  rw [List.mem_singleton.mp hv, longInteger, Value.writable]
  decide +kernel

theorem overflows_longInteger : Overflows "?f".toList [longInteger] := by
  have hvalid : validate "?f".toList 1 = .ok () := by decide +kernel
  have hpieces : pieces true (skipsOf [longInteger]) "?f".toList = [.slot 0 ['f'], .nothing] := by
    decide
  exact ⟨hvalid, [], 0, [.nothing], 10 ^ 309, hpieces, ⟨[], rfl⟩, rfl, by decide +kernel⟩

theorem refused_iff_not_overflows_longInteger :
    (∀ v ∈ [longInteger], v.writable = true) ∧
      compile "?f".toList [longInteger] = .error .integerTooLarge :=
  ⟨writable_longInteger,
    (refused_iff_not_overflows _ _ writable_longInteger).2.1.mpr overflows_longInteger⟩

/-- Writable integers are not enough for a template to be filled or refused. -/
theorem exists_writable_not_refused :
    ¬∀ (s : Text) (args : List Value), (∀ v ∈ args, v.writable = true) →
      (∃ t, compile s args = .ok t) ∨
        ∃ e, compile s args = .error e ∧ e.kind.isA .template = true := by
  intro h
  have hlong := h "?f".toList [longInteger] writable_longInteger
  exact (ok_or_refused_iff writable_longInteger).mp hlong overflows_longInteger

end QueryTemplate.Template
