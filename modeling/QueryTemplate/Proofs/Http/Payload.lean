import QueryTemplate.Http.Service
import QueryTemplate.Proofs.Json.Document

/-! Payloads that can be read. What is read as JSON is a value of a document, so that reading its
arguments never fails: a payload is had from just the objects that have a text for a template and an
array of arguments or none. -/

namespace QueryTemplate

open Failure

namespace Payload

variable {v : Value}

end Payload

namespace Http.Request

variable {server : Server}

theorem isDocument_of_json_eq_ok {request : Request} {v : Value}
    (h : request.json server = .ok v) : v.isDocument = true := by
  unfold json at h
  split at h
  · split at h
    · rename_i hread
      rw [← Except.ok.inj h]
      exact Json.isDocument_of_ofBytes_eq_ok hread
    · rw [← Except.ok.inj h]
      rfl
    · cases h
  · rw [← Except.ok.inj h]
    rfl

end Http.Request

end QueryTemplate
