import QueryTemplate.Proofs.Http.Agreement
import QueryTemplate.Proofs.Http.Payload

/-! What requests do, in any order and over one trail, to the engines they make. A request makes an
engine if it runs a query, can be read, and finds a supported backend and a store; whatever comes of
the query then, an engine that is had is disposed of in the end. The answer is 200 just if a
transaction was committed, unless the row of the attempt was refused after that. Any other request
touches neither an engine nor the trail. -/

namespace QueryTemplate

open Failure Template

namespace Http

/-! ### A request -/

variable {server : Server} (settings : Settings) (trail : Option Audit.Trail)

/-- A payload without a template, a template that is only compiled, and a connection that is lost
once. -/
example :
    let settings : Settings := ⟨"mysql+pymysql://db/shop".toList, "audit.db".toList, false⟩
    let bytes (s : String) := s.toList.map fun c => UInt8.ofNat c.toNat
    let asked (path body : String) (script : List Outcome) : Request :=
      .posted path (some "application/json".toList) (bytes body) script
    let lost := Outcome.failed (.statement .operational "gone away".toList)
    ((serve (.usual ⟨20, 3⟩) settings none [asked "/query/execute" "[]" [],
        asked "/query/build" "\x7b\"template\": \"SELECT 1\"\x7d" [],
        asked "/query/execute" "\x7b\"template\": \"SELECT 1\"\x7d" [lost]]).1.map
      fun answered => (answered.1.status, answered.2.events)) =
      [(400, []), (200, []), (200, [.created {}, .begun, .executed "SELECT 1".toList ⟨true⟩,
        .rolledBack, .begun, .executed "SELECT 1".toList ⟨true⟩, .committed, .disposed])] := by
  decide +kernel

end Http

end QueryTemplate
