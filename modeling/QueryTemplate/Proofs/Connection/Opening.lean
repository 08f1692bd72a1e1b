import QueryTemplate.Connection.Session
import QueryTemplate.Proofs.Failure.Bind

/-! Sessions that are opened. A session is admitted if its URL names a supported backend and its
store can be opened; only then is its engine made, which may fail too. -/

namespace QueryTemplate

open Failure

/-- What a URL has to name to be supported. -/
def Installation.IsSupported (installation : Installation) (url : Text) : Prop :=
  ∃ name, installation.backend url = .ok name ∧
    (name = "mysql".toList ∨ name = "mariadb".toList)

theorem Installation.exists_supportedBackend_eq_ok_iff (installation : Installation) (url : Text) :
    (∃ name, installation.supportedBackend url = .ok name) ↔ installation.IsSupported url := by
  constructor
  · rintro ⟨name, h⟩
    obtain ⟨found, hfound, h⟩ := bind_eq_ok_iff.mp h
    split_ifs at h with hsupported
    refine ⟨found, hfound, ?_⟩
    simpa [supported, or_comm] using hsupported
  · rintro ⟨name, hname, hsupported⟩
    refine ⟨name, ?_⟩
    rw [supportedBackend, hname, ok_bind, if_pos (by simpa [supported, or_comm] using hsupported)]
    rfl

namespace Session

variable {installation : Installation} {url : Text} {options : SessionOptions}
  {trail : Audit.Trail} {session : Session}

theorem admitted_eq_ok_iff : admitted installation url options trail = .ok session ↔
    ∃ backend, installation.supportedBackend url = .ok backend ∧
      (options.audited = true → installation.store.opened = .ok ()) ∧
        session = ⟨backend, options.debug, options.audited, none, trail⟩ := by
  rw [admitted, bind_eq_ok_iff]
  apply exists_congr
  intro backend
  apply and_congr_right
  intro _
  cases options.audited with
  | false =>
    simp only [Bool.false_eq_true, if_false, false_implies, true_and]
    exact ⟨fun h => (Except.ok.inj h).symm, fun h => congrArg Except.ok h.symm⟩
  | true =>
    simp only [if_true, forall_const]
    cases installation.store.opened with
    | error e => exact ⟨nofun, nofun⟩
    | ok opened =>
      exact ⟨fun h => ⟨rfl, (Except.ok.inj h).symm⟩, fun h => congrArg Except.ok h.2.symm⟩

theorem open_of_admitted_eq_ok (h : admitted installation url options trail = .ok session) :
    Session.open installation url options trail =
      ((installation.create url options.engine).map fun _ => session,
        [.event (.created options.engine)]) := by
  rw [Session.open, h]

end Session

end QueryTemplate
