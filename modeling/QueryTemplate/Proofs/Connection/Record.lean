import Mathlib.Tactic
import QueryTemplate.Connection.Statement

/-! Records of rows. A record has the names of the columns, each once and where it comes first, and
under each of them the last cell of that name. -/

namespace QueryTemplate

/-- What a row of cells under these names is as a record. -/
structure IsRecordOf (columns : List String) (row : List Value) (record : Record) : Prop where
  names : record.map Prod.fst = ((columns.zip row).map Prod.fst).eraseDups
  cells : ∀ name, record.lookup name = (columns.zip row).reverse.lookup name

namespace Record

theorem any_eq_true_iff (record : Record) (name : String) :
    (record.any fun entry => entry.1 = name) = true ↔ name ∈ record.map Prod.fst := by
  simp

/-- Putting a cell under a name adds the name at the end, if it is not there. -/
theorem names_insert (record : Record) (name : String) (cell : Value) :
    (record.insert name cell).map Prod.fst =
      record.map Prod.fst ++ if name ∈ record.map Prod.fst then [] else [name] := by
  rw [Record.insert]
  simp only [any_eq_true_iff]
  split_ifs with h
  · rw [List.append_nil, List.map_map]
    apply List.map_congr_left
    intro entry _
    by_cases hname : entry.1 = name <;> simp [hname]
  · rw [List.map_append]
    rfl

theorem lookup_cons_eq (entry : String × Value) (rest : Record) (name : String) :
    List.lookup name (entry :: rest) =
      if name = entry.1 then some entry.2 else rest.lookup name := by
  obtain ⟨first, held⟩ := entry
  rw [List.lookup_cons]
  by_cases h : name = first
  · simp [h]
  · rw [beq_false_of_ne h, if_neg h]

theorem lookup_map_replace (record : Record) (name other : String) (cell : Value) :
    (record.map fun entry => if entry.1 = name then (name, cell) else entry).lookup other =
      if other = name ∧ name ∈ record.map Prod.fst then some cell else record.lookup other := by
  induction record with
  | nil => simp
  | cons entry record ih =>
    rw [List.map_cons, List.map_cons, lookup_cons_eq, lookup_cons_eq, ih]
    by_cases hfirst : entry.1 = name
    · simp only [hfirst, if_true, List.mem_cons, true_or, and_true]
      by_cases hother : other = name
      · rw [if_pos hother, if_pos hother]
      · rw [if_neg hother, if_neg hother, if_neg fun h => hother h.1, if_neg hother]
    · have hne : name ≠ entry.1 := fun h => hfirst h.symm
      simp only [hfirst, if_false, List.mem_cons, hne, false_or]
      by_cases hother : other = entry.1
      · rw [if_pos hother, if_pos hother, if_neg fun h => hne (h.1.symm.trans hother)]
      · rw [if_neg hother, if_neg hother]

/-- Under its name the cell is found that was put there, and under any other what was there. -/
theorem lookup_insert (record : Record) (name other : String) (cell : Value) :
    (record.insert name cell).lookup other =
      if other = name then some cell else record.lookup other := by
  rw [Record.insert]
  simp only [any_eq_true_iff]
  by_cases hmem : name ∈ record.map Prod.fst
  · rw [if_pos hmem, lookup_map_replace]
    simp only [hmem, and_true]
  · rw [if_neg hmem, List.lookup_append, lookup_cons_eq]
    by_cases hother : other = name
    · have hnone : record.lookup other = none := by
        rw [List.lookup_eq_none_iff]
        intro entry hentry
        rw [bne_iff_ne]
        rintro rfl
        exact hmem (hother ▸ List.mem_map_of_mem hentry)
      rw [hnone, if_pos hother, if_pos hother]
      rfl
    · rw [if_neg hother, if_neg hother]
      exact Option.or_none

end Record

/-- Cells that are put in one after the other make the record of all of them. -/
theorem isRecordOf_foldl (columns : List String) (row : List Value) :
    IsRecordOf columns row
      ((columns.zip row).foldl (fun record entry => record.insert entry.1 entry.2) []) := by
  -- The entries are taken from the left, so the induction takes them off at the right.
  suffices hall : ∀ entries : List (String × Value),
      (entries.foldl (fun record entry => Record.insert record entry.1 entry.2) []).map Prod.fst =
        (entries.map Prod.fst).eraseDups ∧
      ∀ name, (entries.foldl (fun record entry => Record.insert record entry.1 entry.2)
        []).lookup name = entries.reverse.lookup name from
    ⟨(hall _).1, (hall _).2⟩
  intro entries
  induction entries using List.reverseRecOn with
  | nil => exact ⟨rfl, fun _ => rfl⟩
  | append_singleton entries entry ih =>
    obtain ⟨hnames, hcells⟩ := ih
    rw [List.foldl_append, List.foldl_cons, List.foldl_nil]
    constructor
    · rw [Record.names_insert, hnames, List.map_append, List.map_singleton, List.eraseDups_append]
      congr 1
      simp only [List.mem_eraseDups]
      split_ifs with h
      · simp [List.removeAll, h]
      · simp [List.removeAll, h, List.eraseDups_cons]
    · intro name
      rw [Record.lookup_insert, hcells, List.reverse_append, List.reverse_singleton,
        List.singleton_append, Record.lookup_cons_eq]

theorem ResultSet.isRecordOf_records (result : ResultSet) :
    List.Forall₂ (IsRecordOf result.columns) result.rows result.records := by
  rw [ResultSet.records, List.forall₂_map_right_iff, List.forall₂_same]
  intro row _
  exact isRecordOf_foldl result.columns row

/-- What the records are that a statement gives: one for each of its rows, and none without rows. -/
def Outcome.Gives : Outcome → List Record → Prop
  | .failed _, _ => False
  | .returned result, records => List.Forall₂ (IsRecordOf result.columns) result.rows records
  | .done, records => records = []

theorem Outcome.gives_of_records_eq_ok {outcome : Outcome} {records : List Record}
    (h : outcome.records = .ok records) : outcome.Gives records := by
  cases outcome with
  | failed failure => cases h
  | returned result =>
    rw [← Except.ok.inj h]
    exact result.isRecordOf_records
  | done => exact (Except.ok.inj h).symm

/-- Of two columns with one name the later one counts. -/
example : ResultSet.records ⟨["a", "b", "a"], [[.int 1, .int 2, .int 3]]⟩ =
    [[("a", .int 3), ("b", .int 2)]] := rfl

end QueryTemplate
