import QueryTemplate.Proofs.Failure.Bind
import QueryTemplate.Proofs.Value.Writable
import QueryTemplate.Template.Render

/-! Which failures a placeholder reports. A placeholder refuses an argument with a failure of the
template, unless the argument holds an integer that cannot be written, or a number is asked for and
the argument is an integer beyond the range of binary numbers. -/

namespace QueryTemplate

open Number Sql Failure

/-- A failure of the template, or one caused by an integer in the value that cannot be written. -/
def IsRefusal (v : Value) (e : Failure) : Prop :=
  e.kind.isA .template = true ∨ e = .integerTooLong ∧ v.writable = false

/-- The refusal of a value for what it is, or one caused by an integer in it that cannot be
written. -/
def IsUnsupported (v : Value) (e : Failure) : Prop :=
  e.kind = .unsupported ∨ e = .integerTooLong ∧ v.writable = false

theorem IsUnsupported.isRefusal {v : Value} {e : Failure} (h : IsUnsupported v e) :
    IsRefusal v e := by
  refine h.imp_left fun hkind => ?_
  rw [hkind]
  rfl

theorem orTooLong_eq_error {t : Option Text} {e : Failure} (h : orTooLong t = .error e) :
    e = .integerTooLong ∧ t.isSome = false := by
  cases t with
  | none => exact ⟨(Except.error.inj h).symm, rfl⟩
  | some t => cases h

namespace Value

theorem isSkip_eq_false_iff {v : Value} : v.isSkip = false ↔ v ≠ .skip := by
  cases v <;> simp [isSkip]

theorem display_eq_error {v : Value} {e : Failure} (h : v.display = .error e) :
    e = .integerTooLong ∧ v.writable = false := by
  obtain ⟨rfl, hnone⟩ := orTooLong_eq_error h
  refine ⟨rfl, Bool.eq_false_iff.mpr fun hv => ?_⟩
  rw [display?_isSome v hv] at hnone
  cases hnone

end Value

theorem literal_eq_error {v : Value} {e : Failure} (h : literal v = .error e) :
    e = .integerTooLong ∧ v.writable = false := by
  have hplain : orTooLong v.plain? = .error e := by
    cases v <;> first | exact h | cases h
  obtain ⟨rfl, hnone⟩ := orTooLong_eq_error hplain
  refine ⟨rfl, Bool.eq_false_iff.mpr fun hv => ?_⟩
  rw [Value.plain?_isSome hv] at hnone
  cases hnone

/-- A refusal that shows the value. -/
theorem isUnsupported_of_throw {α : Type} {v : Value} {refuse : Text → Failure} {e : Failure}
    (hkind : ∀ shown, (refuse shown).kind = .unsupported)
    (h : (v.display >>= fun shown => throw (refuse shown) : Except Failure α) = .error e) :
    IsUnsupported v e := by
  rcases bind_eq_error_iff.mp h with h | ⟨shown, -, h⟩
  · exact Or.inr (Value.display_eq_error h)
  · rw [← Except.error.inj h]
    exact Or.inl (hkind shown)

namespace Tag

theorem renderInteger_eq_error {v : Value} {e : Failure} (h : renderInteger v = .error e) :
    IsUnsupported v e := by
  unfold renderInteger at h
  split at h
  · cases h
  · split at h
    · cases h
    · split at h
      · cases h
      · exact isUnsupported_of_throw (fun _ => rfl) h

/-- Of all placeholders only the one for numbers overflows. -/
theorem renderNumber_eq_error {v : Value} {e : Failure} (h : renderNumber v = .error e) :
    IsUnsupported v e ∨ v.isTooLarge = true ∧ e = .integerTooLarge := by
  unfold renderNumber at h
  split at h
  · cases h
  · split_ifs at h with hlarge
    · exact Or.inr ⟨hlarge, (Except.error.inj h).symm⟩
    · left
      split at h
      · exact isUnsupported_of_throw (fun _ => rfl) h
      · split_ifs at h
        exact isUnsupported_of_throw (fun _ => rfl) h

theorem renderName_eq_error {v : Value} {e : Failure} (h : renderName v = .error e) :
    IsUnsupported v e := by
  unfold renderName at h
  split at h
  · cases h
  · split at h
    · cases h
    · exact isUnsupported_of_throw (fun _ => rfl) h
  · rw [← Except.error.inj h]
    exact Or.inl rfl

theorem renderScalar_eq_error {v : Value} {e : Failure} (h : renderScalar v = .error e) :
    IsUnsupported v e := by
  unfold renderScalar at h
  split at h
  case h_6 =>
    rw [← Except.error.inj h]
    exact Or.inl rfl
  all_goals exact Or.inr (literal_eq_error h)

theorem renderEntry_eq_error {key : EntryKey} {item : Value} {e : Failure}
    (h : renderEntry key item = .error e) :
    e.kind = .unsupported ∨ key.display = .error e ∨
      e = .integerTooLong ∧ item.writable = false := by
  unfold renderEntry at h
  split_ifs at h with hrefused
  · rcases bind_eq_error_iff.mp h with h | ⟨shownKey, -, h⟩
    · exact Or.inr (Or.inl h)
    · rcases bind_eq_error_iff.mp h with h | ⟨shown, -, h⟩
      · exact Or.inr (Or.inr (Value.display_eq_error h))
      · rw [← Except.error.inj h]
        exact Or.inl rfl
  · split at h
    · exact Or.inr (Or.inr (literal_eq_error h))
    · exact Or.inr (Or.inr (literal_eq_error h))
    · rcases bind_eq_error_iff.mp h with h | ⟨t, -, h⟩
      · exact Or.inr (Or.inr (literal_eq_error h))
      · cases h
    · rcases bind_eq_error_iff.mp h with h | ⟨shown, -, h⟩
      · exact Or.inr (Or.inl h)
      · rw [← Except.error.inj h]
        exact Or.inl rfl

theorem EntryKey.display_eq_error {key : EntryKey} {e : Failure} (h : key.display = .error e) :
    ∃ v, key = .key v ∧ e = .integerTooLong ∧ v.writable = false := by
  cases key with
  | place i => cases h
  | key v => exact ⟨v, rfl, Value.display_eq_error h⟩

/-- The items of a list or a mapping, and the keys of a mapping, can be written if the value can. -/
theorem writable_of_mem_associationEntries? {v : Value} {entries : List (EntryKey × Value)}
    (hentries : associationEntries? v = some entries) (hv : v.writable = true)
    {entry : EntryKey × Value} (hmem : entry ∈ entries) :
    entry.2.writable = true ∧ ∀ key, entry.1 = .key key → key.writable = true := by
  cases v with
  | list items | tuple items =>
    rw [Value.writable, Value.allWritable_iff] at hv
    obtain rfl := Option.some.inj hentries
    obtain ⟨i, hi, rfl⟩ := List.mem_mapIdx.mp hmem
    exact ⟨hv _ (List.getElem_mem hi), fun key hkey => by cases hkey⟩
  | mapping pairs | orderedMapping pairs | foreignMapping _ pairs =>
    rw [Value.writable, Value.entriesWritable_iff] at hv
    obtain rfl := Option.some.inj hentries
    obtain ⟨pair, hpair, rfl⟩ := List.mem_map.mp hmem
    exact ⟨(hv pair hpair).2, fun key hkey => by cases hkey; exact (hv pair hpair).1⟩
  | _ => cases hentries

theorem renderAssociation_eq_error {v : Value} {e : Failure} (h : renderAssociation v = .error e) :
    IsUnsupported v e := by
  unfold renderAssociation at h
  split at h
  · rename_i entries hentries
    rcases bind_eq_error_iff.mp h with h | ⟨parts, -, h⟩
    · obtain ⟨entry, hmem, h⟩ := exists_mem_of_mapM_eq_error h
      have hwritable := fun hv => writable_of_mem_associationEntries? hentries hv hmem
      rcases renderEntry_eq_error h with hkind | hdisplay | ⟨rfl, hitem⟩
      · exact Or.inl hkind
      · obtain ⟨key, hkey, rfl, hunwritable⟩ := EntryKey.display_eq_error hdisplay
        refine Or.inr ⟨rfl, Bool.eq_false_iff.mpr fun hv => ?_⟩
        rw [(hwritable hv).2 key hkey] at hunwritable
        cases hunwritable
      · refine Or.inr ⟨rfl, Bool.eq_false_iff.mpr fun hv => ?_⟩
        rw [(hwritable hv).1] at hitem
        cases hitem
    · cases h
  · rw [← Except.error.inj h]
    exact Or.inl rfl

/-- A placeholder refuses a value other than the skip marker for what it is, or it asks for a
number and the value is too large. -/
theorem render_eq_error_of_isSkip_eq_false {tag : Tag} {v : Value} {e : Failure}
    (hskip : v.isSkip = false) (h : tag.render v = .error e) :
    IsUnsupported v e ∨ tag = .number ∧ v.isTooLarge = true ∧ e = .integerTooLarge := by
  unfold render at h
  rw [if_neg (Bool.eq_false_iff.mp hskip)] at h
  cases tag with
  | scalar => exact Or.inl (renderScalar_eq_error h)
  | integer => exact Or.inl (renderInteger_eq_error h)
  | number => exact (renderNumber_eq_error h).imp_right fun hlarge => ⟨rfl, hlarge⟩
  | association => exact Or.inl (renderAssociation_eq_error h)
  | name => exact Or.inl (renderName_eq_error h)

/-- A placeholder refuses its argument, or it asks for a number and the argument is too large. -/
theorem render_eq_error {tag : Tag} {v : Value} {e : Failure} (h : tag.render v = .error e) :
    IsRefusal v e ∨ tag = .number ∧ v.isTooLarge = true ∧ e = .integerTooLarge := by
  cases hskip : v.isSkip with
  | true =>
    unfold render at h
    rw [if_pos hskip] at h
    rw [← Except.error.inj h]
    exact Or.inl (Or.inl rfl)
  | false => exact (render_eq_error_of_isSkip_eq_false hskip h).imp_left IsUnsupported.isRefusal

/-- A number placeholder overflows on every integer that is too large. -/
theorem render_number_of_isTooLarge {v : Value} (h : v.isTooLarge = true) :
    render .number v = .error .integerTooLarge := by
  cases v with
  | int n =>
    show renderNumber (.int n) = .error .integerTooLarge
    rw [renderNumber, if_pos h]
    exact fun hnull => by cases hnull
  | _ => cases h

end Tag

end QueryTemplate
