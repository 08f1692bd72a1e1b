import Mathlib
import QueryTemplate.Proofs.Http.Agreement
import QueryTemplate.Proofs.Http.Payload
import QueryTemplate.Proofs.Number.One
import QueryTemplate.Proofs.Template.Conditional

/-! Which arguments of a request stand for the skip marker. An object with the one member `$skip`
does if the member equals true, and besides the truth value the integer one and the number one do.
Every other item of the array is an argument as it is. So a block of the template is dropped exactly
for such an object in its place. -/

namespace QueryTemplate

open Failure Number Template

namespace Payload

/-- What equals true: the truth value, the integer one and the number one. -/
def isTrue : Value → Bool
  | .bool b => b
  | .int n => n = 1
  | .float x => x = Binary64.ofInt 1
  | _ => false

/-- Whether a value is an object whose only member is `$skip`, with a value of the given kind. -/
def isMarked (holds : Value → Bool) : Value → Bool
  | .mapping [(.text name, value)] => name = markerName && holds value
  | _ => false

/-- What an item of the array is passed on as: a marked one as the skip marker, and any other as it
is. -/
def passed (holds : Value → Bool) (item : Value) : Value :=
  if isMarked holds item then .skip else item

/-! ### Items -/

theorem equalsTrue_int (n : Int) : equalsTrue (.int n) = .ok (isTrue (.int n)) := by
  show Except.ok (Signed.same (intSize n) (intSize 1)) = .ok (decide (n = 1))
  congr 1
  rw [Bool.eq_iff_iff, decide_eq_true_iff]
  simp only [Signed.same, Magnitude.same, Magnitude.isZero, intSize, Bool.and_eq_true,
    Bool.or_eq_true, decide_eq_true_eq, beq_iff_eq, decide_eq_decide]
  omega

theorem equalsTrue_float (x : Binary64) : equalsTrue (.float x) = .ok (isTrue (.float x)) := by
  cases x with
  | nan =>
    show Except.ok false = .ok (decide (Binary64.nan = Binary64.ofInt 1))
    rw [Binary64.ofInt_one]
    rfl
  | infinite negative =>
    show Except.ok false = .ok (decide (Binary64.infinite negative = Binary64.ofInt 1))
    rw [Binary64.ofInt_one]
    rfl
  | finite negative x =>
    show Except.ok (Signed.same (negative, .ratio x.ratio.1 x.ratio.2) (intSize 1)) =
      .ok (decide (Binary64.finite negative x = Binary64.ofInt 1))
    congr 1
    rw [Bool.eq_iff_iff, decide_eq_true_iff]
    exact Binary64.same_one_iff negative x

theorem equalsTrue_of_isDocument {v : Value} (h : v.isDocument = true) :
    equalsTrue v = .ok (isTrue v) := by
  cases v with
  | null | text | list | mapping => rfl
  | bool b => cases b <;> rfl
  | int n => exact equalsTrue_int n
  | float x => exact equalsTrue_float x
  | _ => cases h

theorem decodeArg_of_isDocument {v : Value} (h : v.isDocument = true) :
    decodeArg v = .ok (passed isTrue v) := by
  unfold decodeArg
  split
  · rename_i name value hentries
    obtain ⟨rfl, hmembers⟩ := Value.eq_mapping_of_members?_eq_some h hentries
    have hvalue := ((Value.areMembers_iff _).mp hmembers _ List.mem_cons_self).2
    split_ifs with hname
    · rw [equalsTrue_of_isDocument hvalue]
      simp [passed, isMarked, hname]
    · simp [passed, isMarked, hname]
  · rename_i hother
    have hmarked : isMarked isTrue v = false := by
      unfold isMarked
      split
      · exact absurd rfl (hother _ _)
      · rfl
    rw [passed, hmarked]
    rfl

theorem decodeArgs_of_areDocuments {items : List Value} (h : Value.areDocuments items = true) :
    decodeArgs (.list items) = .ok (items.map (passed isTrue)) := by
  show items.mapM decodeArg = _
  induction items with
  | nil => rfl
  | cons item rest ih =>
    rw [Value.areDocuments, Bool.and_eq_true] at h
    rw [List.mapM_cons, decodeArg_of_isDocument h.1, ih h.2]
    rfl

/-- No item of an array is the skip marker itself. -/
theorem passed_eq_skip_iff (holds : Value → Bool) {item : Value} (h : item.isDocument = true) :
    passed holds item = .skip ↔ isMarked holds item = true := by
  rw [passed]
  split_ifs with hmarked
  · exact iff_of_true rfl hmarked
  · refine iff_of_false ?_ hmarked
    rintro rfl
    cases h

end Payload

namespace Http

open Payload

/-- A request whose body is an object with this template and this array of arguments. -/
def Request.Carries (server : Server) (request : Request) (s : Text) (items : List Value) : Prop :=
  ∃ entries, request.json server = .ok (.mapping entries) ∧
    Value.findEntry? entries (.text "template".toList) = some (.text s) ∧
    Value.findEntry? entries (.text "args".toList) = some (.list items)

/-- How the blocks of a template come out of its items. A block takes the item in its place: it is
dropped if that is marked, and filled with it otherwise. What stands before the block and after it
is filled with the items before and after that one. -/
def DropsMarked (holds : Value → Bool) (s : Text) (items : List Value) (sql : Text) : Prop :=
  ∀ front body back, s = front ++ '{' :: body ++ '}' :: back → '}' ∉ body → '?' ∈ body →
    ∃ item x z, items[front.count '?']? = some item ∧
      Template.compile front ((items.take (front.count '?')).map (passed holds)) = .ok x ∧
      Template.compile back ((items.drop (front.count '?' + 1)).map (passed holds)) = .ok z ∧
      (isMarked holds item = true → sql = x ++ z) ∧
      (isMarked holds item = false → ∃ t, Template.compile body [item] = .ok t ∧
        sql = x ++ (t ++ z))

/-- How a request to compile a template is answered, if the objects that stand for the skip marker
are those whose member holds: the template is filled with the items, each passed on in its place. -/
structure IsAnswered (holds : Value → Bool) (s : Text) (items : List Value)
    (response : Response) : Prop where
  filled : response =
    respond ((Template.compile s (items.map (passed holds))).map Reply.query)
  blocks : response.status = 200 →
    ∃ sql, response.reply = some (.query sql) ∧ DropsMarked holds s items sql

variable {server : Server}

theorem payload_of_carries {request : Request} {s : Text} {items : List Value}
    (h : request.Carries server s items) :
    request.payload server = .ok ⟨s, items.map (passed isTrue)⟩ ∧
      Value.areDocuments items = true := by
  obtain ⟨entries, hjson, htemplate, hargs⟩ := h
  have hitems : Value.areDocuments items = true :=
    Value.isDocument_of_findEntry?_eq_some (Request.isDocument_of_json_eq_ok hjson) hargs
  refine ⟨?_, hitems⟩
  rw [Request.payload, hjson, ok_bind]
  simp only [Payload.ofValue, Value.members?, member, htemplate, hargs, Option.getD_some,
    decodeArgs_of_areDocuments hitems]
  rfl

theorem compile_of_payload_eq_ok {request : Request} {payload : Payload}
    (h : request.payload server = .ok payload) :
    compile server request = (Template.compile payload.template payload.args).map Reply.query := by
  rw [compile, h, ok_bind]
  cases Template.compile payload.template payload.args <;> rfl

/-- The argument in the place of a block is the item in that place, passed on. -/
theorem dropsMarked_of_compile_eq_ok {holds : Value → Bool} {s sql : Text} {items : List Value}
    (hitems : Value.areDocuments items = true)
    (h : Template.compile s (items.map (passed holds)) = .ok sql) :
    DropsMarked holds s items sql := by
  intro front body back hsource hclose hmark
  rw [hsource] at h
  obtain ⟨v, x, z, hv, hx, hz, hskip, hother⟩ := exists_of_compile_block_eq_ok hclose hmark h
  rw [List.getElem?_map] at hv
  obtain ⟨item, hitem, rfl⟩ := Option.map_eq_some_iff.mp hv
  have hdocument := (Value.areDocuments_iff items).mp hitems item (List.mem_of_getElem? hitem)
  have hiff := passed_eq_skip_iff holds hdocument
  rw [← List.map_take] at hx
  rw [← List.map_drop] at hz
  refine ⟨item, x, z, hitem, hx, hz, fun hmarked => hskip (hiff.mpr hmarked), ?_⟩
  intro hmarked
  have hpassed : passed holds item = item := by
    rw [passed, hmarked]
    rfl
  have hne : passed holds item ≠ .skip := by
    rw [Ne, hiff, hmarked]
    decide
  rw [hpassed] at hother hne
  exact hother hne

section Posted

variable (hrouted : server.IsRouted) (settings : Settings) (trail : Option Audit.Trail)
  {contentType : Option Text} {body : List UInt8} {script : List Outcome} {s : Text}
  {items : List Value}

include hrouted

theorem response_of_carries
    (h : (Request.posted "/query/build" contentType body script).Carries server s items) :
    (handle server settings trail (.posted "/query/build" contentType body script)).1 =
      respond ((Template.compile s (items.map (passed isTrue))).map Reply.query) := by
  have hfound : server.destination (Request.posted "/query/build" contentType body script).target
      (Request.posted "/query/build" contentType body script).verb = .found .compile .post :=
    hrouted.compile
  rw [handle_of_found_compile settings trail hfound,
    compile_of_payload_eq_ok (payload_of_carries h).1]

/-- A request to compile a template is answered with the skip marker in place of the objects whose
member equals true, and with every other item as it is. -/
theorem build_isAnswered
    (h : (Request.posted "/query/build" contentType body script).Carries server s items) :
    IsAnswered isTrue s items
      (handle server settings trail (.posted "/query/build" contentType body script)).1 := by
  have hfilled := response_of_carries hrouted settings trail h
  refine ⟨hfilled, fun hstatus => ?_⟩
  rw [hfilled] at hstatus ⊢
  cases hsql : Template.compile s (items.map (passed isTrue)) with
  | error e =>
    rw [hsql] at hstatus
    exact absurd hstatus (status_ofFailure e)
  | ok sql => exact ⟨sql, rfl, dropsMarked_of_compile_eq_ok (payload_of_carries h).2 hsql⟩

end Posted

/-! ### One object for one block -/

/-- The bytes of an ASCII text. -/
def bytesOf (s : Text) : List UInt8 := s.map fun c => UInt8.ofNat c.toNat

def filtered : Text := "SELECT 1\x7b WHERE ?a\x7d".toList

/-- The beginning of a document with the template `filtered` and an object with the member `$skip`
for its argument. What ends it is the value of the member and three closing signs. -/
def opening : Text :=
  "\x7b\"template\": \"SELECT 1\x7b WHERE ?a\x7d\", \"args\": [\x7b\"$skip\": ".toList

/-- The object with the one member `$skip`. -/
def object (v : Value) : Value := .mapping [(.text markerName, v)]

def membersOf (v : Value) : List (Value × Value) :=
  [(.text "template".toList, .text filtered), (.text "args".toList, .list [object v])]

theorem carries_of_ofText_eq_ok {ending : Text} {v : Value}
    (htext : Json.textOf? (bytesOf (opening ++ ending)) = some (opening ++ ending))
    (hread : Json.ofText ⟨20, 3⟩ (opening ++ ending) = .ok (.mapping (membersOf v))) :
    (Request.posted "/query/build" (some "application/json".toList)
      (bytesOf (opening ++ ending)) []).Carries (.usual ⟨20, 3⟩) filtered [object v] := by
  have htype : (some "application/json".toList).any ContentType.isJson = true := by
    decide +kernel
  have hbytes : Json.ofBytes ⟨20, 3⟩ (bytesOf (opening ++ ending)) =
      .ok (.mapping (membersOf v)) := by
    rw [Json.ofBytes, htext, Json.orFault, ok_bind, hread]
  refine ⟨membersOf v, ?_, rfl, rfl⟩
  rw [Request.json]
  simp only [Request.posted, Server.usual, htype, hbytes, if_true]

theorem build_isAnswered_true :
    let request := Request.posted "/query/build" (some "application/json".toList)
      (bytesOf (opening ++ "true\x7d]\x7d".toList)) []
    let server := Server.usual ⟨20, 3⟩
    request.Carries server filtered [object (.bool true)] ∧
      IsAnswered isTrue filtered [object (.bool true)]
        (handle server ⟨"mysql://db".toList, "audit.db".toList, false⟩ none request).1 := by
  have hread : Json.ofText ⟨20, 3⟩ (opening ++ "true\x7d]\x7d".toList) =
      .ok (.mapping (membersOf (.bool true))) := by
    cbv
  have hcarries := carries_of_ofText_eq_ok (by decide +kernel) hread
  exact ⟨hcarries, build_isAnswered (Server.isRouted_usual _) _ _ hcarries⟩

/-- The truth value true. -/
def isTruth : Value → Bool
  | .bool b => b
  | _ => false

/-- The member need not be the truth value: the block is dropped for the integer one as well. -/
theorem exists_dropped_for_one :
    ¬∀ (server : Server) (settings : Settings) (trail : Option Audit.Trail)
      (contentType : Option Text) (body : List UInt8) (script : List Outcome) (s : Text)
      (items : List Value), server.IsRouted →
        (Request.posted "/query/build" contentType body script).Carries server s items →
          IsAnswered isTruth s items
            (handle server settings trail (.posted "/query/build" contentType body script)).1 := by
  intro h
  have hread : Json.ofText ⟨20, 3⟩ (opening ++ "1\x7d]\x7d".toList) =
      .ok (.mapping (membersOf (.int 1))) := by
    cbv
  have hcarries := carries_of_ofText_eq_ok (by decide +kernel) hread
  have hrouted := Server.isRouted_usual ⟨20, 3⟩
  have hfilled := (h _ ⟨"mysql://db".toList, "audit.db".toList, false⟩ none _ _ _ _ _ hrouted
    hcarries).filled
  have hdropped : Template.compile filtered ([object (.int 1)].map (passed isTrue)) =
      .ok "SELECT 1".toList := by
    decide +kernel
  have hkept : Template.compile filtered ([object (.int 1)].map (passed isTruth)) =
      .ok "SELECT 1 WHERE `$skip` = 1".toList := by
    decide +kernel
  rw [response_of_carries hrouted _ _ hcarries, hdropped, hkept] at hfilled
  have hsql := Reply.query.inj (Option.some.inj (congrArg Response.reply hfilled))
  revert hsql
  decide

end Http

end QueryTemplate
