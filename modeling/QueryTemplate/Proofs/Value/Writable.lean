import Mathlib.Tactic
import QueryTemplate.Value.Display

/-! Values all of whose integers can be written. They are the ones that can be shown, at any depth:
an integer beyond the digit limit is the only thing that has no text. -/

namespace QueryTemplate.Value

open Number

mutual

/-- Whether every integer in a value is short enough to be written. -/
def writable : Value → Bool
  | .int n => isWritable n
  | .list items | .tuple items | .set items | .frozenSet items => allWritable items
  | .mapping entries | .orderedMapping entries | .foreignMapping _ entries =>
    entriesWritable entries
  | _ => true

/-- Whether every integer in the values of a row is short enough to be written. -/
def allWritable : List Value → Bool
  | [] => true
  | v :: rest => v.writable && allWritable rest

/-- Whether every integer in the keys and values of entries is short enough to be written. -/
def entriesWritable : List (Value × Value) → Bool
  | [] => true
  | (key, value) :: rest => key.writable && value.writable && entriesWritable rest

end

theorem allWritable_iff (items : List Value) :
    allWritable items = true ↔ ∀ v ∈ items, v.writable = true := by
  induction items with
  | nil => simp [allWritable]
  | cons v items ih => rw [allWritable, Bool.and_eq_true, ih, List.forall_mem_cons]

theorem entriesWritable_iff (entries : List (Value × Value)) :
    entriesWritable entries = true ↔
      ∀ entry ∈ entries, entry.1.writable = true ∧ entry.2.writable = true := by
  induction entries with
  | nil => simp [entriesWritable]
  | cons entry entries ih =>
    rw [entriesWritable, Bool.and_eq_true, Bool.and_eq_true, ih, List.forall_mem_cons]

/-- Values can be shown together if each of them can be shown. -/
theorem displayAll?_isSome {items : List Value} (h : ∀ v ∈ items, v.display?.isSome = true) :
    (displayAll? items).isSome = true := by
  induction items with
  | nil => rfl
  | cons v items ih =>
    rw [List.forall_mem_cons] at h
    obtain ⟨shown, hshown⟩ := Option.isSome_iff_exists.mp h.1
    obtain ⟨rest, hrest⟩ := Option.isSome_iff_exists.mp (ih h.2)
    rw [displayAll?, hshown, hrest]
    rfl

theorem displayEntries?_isSome {entries : List (Value × Value)}
    (h : ∀ entry ∈ entries, entry.1.display?.isSome = true ∧ entry.2.display?.isSome = true) :
    (displayEntries? entries).isSome = true := by
  induction entries with
  | nil => rfl
  | cons entry entries ih =>
    rw [List.forall_mem_cons] at h
    obtain ⟨shownKey, hkey⟩ := Option.isSome_iff_exists.mp h.1.1
    obtain ⟨shown, hshown⟩ := Option.isSome_iff_exists.mp h.1.2
    obtain ⟨rest, hrest⟩ := Option.isSome_iff_exists.mp (ih h.2)
    rw [displayEntries?, hkey, hshown, hrest]
    rfl

theorem intText?_of_isWritable {n : Int} (h : isWritable n = true) :
    intText? n = some (intText n) := if_pos h

/-- A value can be shown if its integers can be written. -/
theorem display?_isSome (v : Value) (h : v.writable = true) : v.display?.isSome = true := by
  have hitems : ∀ items : List Value, sizeOf items < sizeOf v → allWritable items = true →
      (displayAll? items).isSome = true := fun items hsize hall =>
    displayAll?_isSome fun item hitem =>
      have := List.sizeOf_lt_of_mem hitem
      display?_isSome item ((allWritable_iff items).mp hall item hitem)
  have hentries : ∀ entries : List (Value × Value), sizeOf entries < sizeOf v →
      entriesWritable entries = true → (displayEntries? entries).isSome = true :=
    fun entries hsize hall => displayEntries?_isSome fun entry hentry =>
      have := List.sizeOf_lt_of_mem hentry
      have hboth := (entriesWritable_iff entries).mp hall entry hentry
      ⟨display?_isSome entry.1 hboth.1, display?_isSome entry.2 hboth.2⟩
  cases v with
  | int n =>
    rw [writable] at h
    rw [display?, intText?_of_isWritable h, Option.isSome_some]
  | list items | tuple items | set items | frozenSet items =>
    rw [writable] at h
    rw [display?, Option.isSome_map]
    exact hitems items (by simp) h
  | mapping entries | orderedMapping entries =>
    rw [writable] at h
    rw [display?, Option.isSome_map]
    exact hentries entries (by simp) h
  | _ => rw [display?, Option.isSome_some]
termination_by sizeOf v
decreasing_by
  · omega
  · obtain ⟨key, value⟩ := entry
    simp only [Prod.mk.sizeOf_spec] at this
    show sizeOf key < sizeOf v
    omega
  · obtain ⟨key, value⟩ := entry
    simp only [Prod.mk.sizeOf_spec] at this
    show sizeOf value < sizeOf v
    omega

/-- A value has a plain text if its integers can be written. -/
theorem plain?_isSome {v : Value} (h : v.writable = true) : v.plain?.isSome = true := by
  have hshown := display?_isSome v h
  cases v with
  | text s | decimal x | date year month day => rfl
  | _ => exact hshown

end QueryTemplate.Value
