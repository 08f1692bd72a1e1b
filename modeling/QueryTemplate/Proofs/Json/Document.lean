import QueryTemplate.Json.Reader
import QueryTemplate.Proofs.Failure.Bind

/-! What a JSON document can hold: nothing, truth values, numbers, texts, arrays of such values, and
objects whose names are texts. Every value that is read is of this kind, at any depth. -/

namespace QueryTemplate.Value

mutual

/-- Whether a value is one that a JSON document can hold. -/
def isDocument : Value → Bool
  | .null | .bool _ | .int _ | .float _ | .text _ => true
  | .list items => areDocuments items
  | .mapping entries => areMembers entries
  | _ => false

def areDocuments : List Value → Bool
  | [] => true
  | v :: rest => v.isDocument && areDocuments rest

/-- Whether entries are members of an object: texts with values of a document. -/
def areMembers : List (Value × Value) → Bool
  | [] => true
  | (key, value) :: rest => key.isText && value.isDocument && areMembers rest

end

theorem areDocuments_iff (items : List Value) :
    areDocuments items = true ↔ ∀ v ∈ items, v.isDocument = true := by
  induction items with
  | nil => simp [areDocuments]
  | cons v items ih => rw [areDocuments, Bool.and_eq_true, ih, List.forall_mem_cons]

theorem areMembers_iff (entries : List (Value × Value)) :
    areMembers entries = true ↔
      ∀ entry ∈ entries, entry.1.isText = true ∧ entry.2.isDocument = true := by
  induction entries with
  | nil => simp [areMembers]
  | cons entry entries ih =>
    rw [areMembers, Bool.and_eq_true, Bool.and_eq_true, ih, List.forall_mem_cons]

theorem areMembers_insertEntry {entries : List (Value × Value)} {key value : Value}
    (hentries : areMembers entries = true) (hkey : key.isText = true)
    (hvalue : value.isDocument = true) : areMembers (insertEntry entries key value) = true := by
  rw [areMembers_iff] at hentries ⊢
  rw [insertEntry]
  split_ifs
  · intro entry hentry
    obtain ⟨before, hbefore, rfl⟩ := List.mem_map.mp hentry
    split_ifs
    · exact ⟨(hentries before hbefore).1, hvalue⟩
    · exact hentries before hbefore
  · intro entry hentry
    rcases List.mem_append.mp hentry with hentry | hentry
    · exact hentries entry hentry
    · rw [List.mem_singleton.mp hentry]
      exact ⟨hkey, hvalue⟩

theorem areMembers_ofPairs {pairs : List (Value × Value)} (h : areMembers pairs = true) :
    areMembers (ofPairs pairs) = true := by
  have hfold (entries : List (Value × Value)) (hentries : areMembers entries = true) :
      areMembers (pairs.foldl (fun entries pair => insertEntry entries pair.1 pair.2) entries) =
        true := by
    rw [areMembers_iff] at h
    induction pairs generalizing entries with
    | nil => exact hentries
    | cons pair pairs ih =>
      rw [List.forall_mem_cons] at h
      exact ih h.2 _ (areMembers_insertEntry hentries h.1.1 h.1.2)
  exact hfold [] rfl

/-- A value that is found among the members of an object is one of a document. -/
theorem isDocument_of_findEntry?_eq_some {entries : List (Value × Value)} {key v : Value}
    (hentries : areMembers entries = true) (h : findEntry? entries key = some v) :
    v.isDocument = true := by
  obtain ⟨entry, hfind, rfl⟩ := Option.map_eq_some_iff.mp h
  exact ((areMembers_iff entries).mp hentries entry (List.mem_of_find?_eq_some hfind)).2

/-- The only mappings of a document are objects. -/
theorem eq_mapping_of_members?_eq_some {v : Value} {entries : List (Value × Value)}
    (hv : v.isDocument = true) (h : v.members? = some entries) :
    v = .mapping entries ∧ areMembers entries = true := by
  cases v with
  | mapping all =>
    rw [← Option.some.inj h]
    exact ⟨rfl, hv⟩
  | orderedMapping all => cases hv
  | _ => cases h

end QueryTemplate.Value

namespace QueryTemplate.Json

open Failure

theorem isDocument_of_mem_constants {entry : Text × Value} (h : entry ∈ constants) :
    entry.2.isDocument = true := by
  have hall : (constants.all fun entry => entry.2.isDocument) = true := rfl
  exact List.all_eq_true.mp hall entry h

theorem isDocument_of_constant?_eq_some {s rest : Text} {v : Value}
    (h : constant? s = some (v, rest)) : v.isDocument = true := by
  obtain ⟨entry, hmem, hentry⟩ := List.exists_of_findSome?_eq_some h
  obtain ⟨_, -, hv⟩ := Option.map_eq_some_iff.mp hentry
  rw [← (Prod.mk.inj hv).1]
  exact isDocument_of_mem_constants hmem

theorem isDocument_of_number?_eq_some {s rest : Text} {v : Value}
    (h : number? s = some (v, rest)) : v.isDocument = true := by
  obtain ⟨⟨whole, tail⟩, -, h⟩ := Option.bind_eq_some_iff.mp h
  dsimp only at h
  split at h
  · obtain ⟨-, h⟩ := Option.ite_none_right_eq_some.mp h
    rw [← (Prod.mk.inj (Option.some.inj h)).1]
    rfl
  · rw [← (Prod.mk.inj (Option.some.inj h)).1]
    rfl

theorem isDocument_of_atom_eq_ok {room : Nat} {s rest : Text} {v : Value}
    (h : atom room s = .ok (v, rest)) : v.isDocument = true := by
  unfold atom at h
  split at h
  · cases h
  · rename_i hconstant _
    rw [Except.ok.inj h] at hconstant
    exact isDocument_of_constant?_eq_some hconstant
  · cases hnumber : number? s with
    | none =>
      rw [hnumber] at h
      cases h
    | some found =>
      rw [hnumber] at h
      rw [Except.ok.inj h] at hnumber
      exact isDocument_of_number?_eq_some hnumber

/-- Values, items of arrays and members of objects that are read with this much fuel are those of a
document. -/
structure ReadsDocuments (report fuel : Nat) : Prop where
  item : ∀ {room s v rest}, value report fuel room s = .ok (v, rest) → v.isDocument = true
  items : ∀ {room s items rest}, elements report fuel room s = .ok (items, rest) →
    Value.areDocuments items = true
  pairs : ∀ {room s pairs rest}, members report fuel room s = .ok (pairs, rest) →
    Value.areMembers pairs = true

namespace ReadsDocuments

variable {report fuel room : Nat} {s rest : Text} (hreads : ReadsDocuments report fuel)

include hreads

theorem isDocument_of_value_eq_ok {v : Value} (h : value report (fuel + 1) room s = .ok (v, rest)) :
    v.isDocument = true := by
  unfold value at h
  split at h
  · obtain ⟨_, -, h⟩ := bind_eq_ok_iff.mp h
    rw [← (Prod.mk.inj (Except.ok.inj h)).1]
    rfl
  · cases h
  · cases h
  -- an array, which may be empty
  · split at h
    · rw [← (Prod.mk.inj (Except.ok.inj h)).1]
      rfl
    · obtain ⟨_, hitems, h⟩ := bind_eq_ok_iff.mp h
      rw [← (Prod.mk.inj (Except.ok.inj h)).1]
      exact hreads.items hitems
  -- an object, likewise
  · split at h
    · rw [← (Prod.mk.inj (Except.ok.inj h)).1]
      rfl
    · obtain ⟨_, hpairs, h⟩ := bind_eq_ok_iff.mp h
      rw [← (Prod.mk.inj (Except.ok.inj h)).1]
      exact Value.areMembers_ofPairs (hreads.pairs hpairs)
  · exact isDocument_of_atom_eq_ok h

theorem areDocuments_of_elements_eq_ok {items : List Value}
    (h : elements report (fuel + 1) room s = .ok (items, rest)) :
    Value.areDocuments items = true := by
  unfold elements at h
  obtain ⟨_, hitem, h⟩ := bind_eq_ok_iff.mp h
  have hfirst := hreads.item hitem
  dsimp only at h
  split at h
  · rw [← (Prod.mk.inj (Except.ok.inj h)).1]
    simp [Value.areDocuments, hfirst]
  · obtain ⟨_, hitems, h⟩ := bind_eq_ok_iff.mp h
    rw [← (Prod.mk.inj (Except.ok.inj h)).1]
    simp [Value.areDocuments, hfirst, hreads.items hitems]
  · cases h

theorem areMembers_of_members_eq_ok {pairs : List (Value × Value)}
    (h : members report (fuel + 1) room s = .ok (pairs, rest)) : Value.areMembers pairs = true := by
  unfold members at h
  split at h
  · obtain ⟨_, -, h⟩ := bind_eq_ok_iff.mp h
    dsimp only at h
    split at h
    · obtain ⟨_, hitem, h⟩ := bind_eq_ok_iff.mp h
      have hfirst := hreads.item hitem
      split at h
      · rw [← (Prod.mk.inj (Except.ok.inj h)).1]
        simp [Value.areMembers, Value.isText, hfirst]
      · obtain ⟨_, hpairs, h⟩ := bind_eq_ok_iff.mp h
        rw [← (Prod.mk.inj (Except.ok.inj h)).1]
        simp [Value.areMembers, Value.isText, hfirst, hreads.pairs hpairs]
      · cases h
    · cases h
  · cases h

end ReadsDocuments

/-- The fuel bounds how deep a reader calls another one. -/
theorem readsDocuments (report fuel : Nat) : ReadsDocuments report fuel := by
  induction fuel with
  | zero =>
    constructor
    case item =>
      intro room s v rest h
      cases h
    case items =>
      intro room s items rest h
      cases h
    case pairs =>
      intro room s pairs rest h
      cases h
  | succ fuel ih =>
    exact ⟨ih.isDocument_of_value_eq_ok, ih.areDocuments_of_elements_eq_ok,
      ih.areMembers_of_members_eq_ok⟩

theorem isDocument_of_ofText_eq_ok {stack : Stack} {s : Text} {v : Value}
    (h : ofText stack s = .ok v) :
    v.isDocument = true := by
  obtain ⟨⟨read, rest⟩, hread, h⟩ := bind_eq_ok_iff.mp h
  dsimp only at h
  split_ifs at h
  rw [← Except.ok.inj h]
  exact (readsDocuments _ _).item hread

/-- Every value that is read from bytes is one that a document can hold. -/
theorem isDocument_of_ofBytes_eq_ok {stack : Stack} {data : List UInt8} {v : Value}
    (h : ofBytes stack data = .ok v) : v.isDocument = true := by
  obtain ⟨s, -, h⟩ := bind_eq_ok_iff.mp h
  exact isDocument_of_ofText_eq_ok h

end QueryTemplate.Json
