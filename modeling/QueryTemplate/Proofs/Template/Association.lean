import QueryTemplate.Proofs.Sql.Pieces
import QueryTemplate.Proofs.Template.Literal
import QueryTemplate.Proofs.Template.Refusal

/-! What an association takes and what it becomes. Lists of elements and mappings of elements under
names and numbers are taken, and all else is refused for its first entry that does not fit. The
text of what is taken falls into its entries again, one piece for each, in their order, unless an
object of another type reads as more than one piece. -/

namespace QueryTemplate.Tag

open Sql Failure

/-- A value that may stand in an entry: no marker and no collection. -/
def IsElement : Value → Prop
  | .skip | .list _ | .tuple _ | .set _ | .frozenSet _ => False
  | .mapping _ | .orderedMapping _ | .foreignMapping .. => False
  | _ => True

/-- A key that may stand in an entry: a name, or an integer that is not negative. A truth value is
no integer here. -/
def IsEntryKey : Value → Prop
  | .text _ => True
  | .int n => 0 ≤ n
  | _ => False

/-- A list of elements, or a mapping of elements under keys that may stand in an entry. -/
def IsAssociation : Value → Prop
  | .list items | .tuple items => ∀ item ∈ items, IsElement item
  | .mapping entries | .orderedMapping entries | .foreignMapping _ entries =>
    ∀ entry ∈ entries, IsEntryKey entry.1 ∧ IsElement entry.2
  | _ => False

/-- An entry that fits. The place of an item in a list always does. -/
def IsFit : EntryKey × Value → Prop
  | (.place _, item) => IsElement item
  | (.key v, item) => IsEntryKey v ∧ IsElement item

/-- The failure for an entry that does not fit. Its value is looked at before its key. -/
def IsFaultOf (entry : EntryKey × Value) (e : Failure) : Prop :=
  ∃ shownKey, entry.1.display = .ok shownKey ∧
    (¬IsElement entry.2 ∧ (∃ shown, entry.2.display = .ok shown ∧ e = .entryValue shownKey shown) ∨
      IsElement entry.2 ∧ e = .entryKey shownKey)

/-- The piece of an entry: the literal of its value, with the name in front if it has one. -/
def IsPieceOf (entry : EntryKey × Value) (piece : Text) : Prop :=
  ∃ t, literal entry.2 = .ok t ∧ piece = label entry.1 ++ t

theorem isElement_iff (v : Value) :
    IsElement v ↔ (v.isSkip || v.isContainer) = false := by
  cases v <;> simp [IsElement, Value.isSkip, Value.isContainer]

theorem exists_literal_eq_ok {v : Value} (h : v.writable = true) : ∃ t, literal v = .ok t := by
  cases hliteral : literal v with
  | ok t => exact ⟨t, rfl⟩
  | error e =>
    have hunwritable := (literal_eq_error hliteral).2
    rw [h] at hunwritable
    cases hunwritable

theorem exists_display_eq_ok {v : Value} (h : v.writable = true) :
    ∃ shown, v.display = .ok shown := by
  cases hdisplay : v.display with
  | ok shown => exact ⟨shown, rfl⟩
  | error e =>
    have hunwritable := (Value.display_eq_error hdisplay).2
    rw [h] at hunwritable
    cases hunwritable

theorem EntryKey.exists_display_eq_ok {key : EntryKey}
    (h : ∀ v, key = .key v → v.writable = true) : ∃ shown, key.display = .ok shown := by
  cases key with
  | place i => exact ⟨_, rfl⟩
  | key v => exact Tag.exists_display_eq_ok (h v rfl)

/-! ### Entries -/

section Entry

variable {entry : EntryKey × Value} (hkey : ∀ v, entry.1 = .key v → v.writable = true)
  (hitem : entry.2.writable = true)

include hkey hitem

omit hkey in
theorem exists_renderEntry_of_isFit (h : IsFit entry) :
    ∃ piece, renderEntry entry.1 entry.2 = .ok piece := by
  obtain ⟨key, item⟩ := entry
  obtain ⟨t, ht⟩ := exists_literal_eq_ok hitem
  unfold renderEntry
  cases key with
  | place i =>
    rw [if_neg (by simpa using (isElement_iff item).mp h)]
    exact ⟨t, ht⟩
  | key v =>
    obtain ⟨hv, helement⟩ := h
    rw [if_neg (by simpa using (isElement_iff item).mp helement)]
    cases v with
    | text s =>
      rw [ht]
      exact ⟨_, rfl⟩
    | int n =>
      obtain ⟨n, rfl⟩ := Int.eq_ofNat_of_zero_le hv
      exact ⟨t, ht⟩
    | _ => exact hv.elim

theorem exists_renderEntry_of_not_isFit (h : ¬IsFit entry) :
    ∃ e, renderEntry entry.1 entry.2 = .error e ∧ IsFaultOf entry e := by
  obtain ⟨key, item⟩ := entry
  obtain ⟨shownKey, hshownKey⟩ := EntryKey.exists_display_eq_ok hkey
  obtain ⟨shown, hshown⟩ := exists_display_eq_ok hitem
  by_cases helement : IsElement item
  · refine ⟨.entryKey shownKey, ?_, shownKey, hshownKey, Or.inr ⟨helement, rfl⟩⟩
    unfold renderEntry
    rw [if_neg (by simpa using (isElement_iff item).mp helement)]
    cases key with
    | place i => exact absurd helement h
    | key v =>
      have hrefused : (EntryKey.key v).display >>=
          (fun shown => (throw (.entryKey shown) : Except Failure Text)) =
            .error (.entryKey shownKey) := by
        rw [hshownKey]
        rfl
      cases v with
      | text s => exact absurd ⟨trivial, helement⟩ h
      | int n =>
        cases n with
        | ofNat n => exact absurd ⟨Int.natCast_nonneg n, helement⟩ h
        | negSucc n => exact hrefused
      | _ => exact hrefused
  · refine ⟨.entryValue shownKey shown, ?_, shownKey, hshownKey,
      Or.inl ⟨helement, shown, hshown, rfl⟩⟩
    have hrefused : (item.isSkip || item.isContainer) = true := by
      rwa [isElement_iff, Bool.not_eq_false] at helement
    unfold renderEntry
    rw [if_pos hrefused, hshownKey, hshown]
    rfl

end Entry

/-- A name in front of a piece gives one piece. -/
theorem isPiece_label_append (key : EntryKey) {t : Text} (h : IsPiece t) :
    IsPiece (label key ++ t) := by
  unfold label
  split
  · rename_i name
    have hname : Neutral (quoteName name ++ " = ".toList) :=
      neutral_append (neutral_quoteName name) rfl
    have hhides : Hides .outside (quoteName name ++ " = ".toList) := by
      rw [hides_append, neutral_quoteName]
      exact ⟨hides_quoteName name, hides_of_not_mem (by decide) .outside⟩
    exact h.append_of_hides hname hhides
  · exact h

theorem isPiece_of_isEntry {key : EntryKey} {item : Value} {part : Text}
    (hobject : ∀ form, item = .object form → IsPiece form.plain) (h : IsEntry key item part) :
    IsPiece part := by
  obtain ⟨t, ht, rfl⟩ := h.written
  exact isPiece_label_append key (isPiece_literal h.isContainer hobject ht)

/-! ### Associations -/

theorem render_association_of_isSkip_eq_false {v : Value} (h : v.isSkip = false) :
    Tag.association.render v = renderAssociation v := by
  unfold render
  rw [h, if_neg Bool.false_ne_true]

theorem not_isAssociation {v : Value} (h : associationEntries? v = none) : ¬IsAssociation v := by
  cases v with
  | list | tuple | mapping | orderedMapping | foreignMapping => cases h
  | _ => exact id

section Entries

variable {v : Value} {entries : List (EntryKey × Value)}
  (hentries : associationEntries? v = some entries)

include hentries

theorem isAssociation_iff : IsAssociation v ↔ ∀ entry ∈ entries, IsFit entry := by
  cases v with
  | list items | tuple items =>
    obtain rfl := Option.some.inj hentries
    constructor
    · intro h entry hmem
      obtain ⟨i, hi, rfl⟩ := List.mem_mapIdx.mp hmem
      exact h _ (List.getElem_mem hi)
    · intro h item hitem
      obtain ⟨i, hi, rfl⟩ := List.mem_iff_getElem.mp hitem
      exact h _ (List.mem_mapIdx.mpr ⟨i, hi, rfl⟩)
  | mapping pairs | orderedMapping pairs | foreignMapping _ pairs =>
    obtain rfl := Option.some.inj hentries
    simp only [IsAssociation, List.forall_mem_map, IsFit]
  | _ => cases hentries

theorem render_association_of_entries : Tag.association.render v = (do
    return Value.commaSeparated (← entries.mapM fun entry => renderEntry entry.1 entry.2)) := by
  have hskip : v.isSkip = false := by
    cases v with
    | skip => cases hentries
    | _ => rfl
  rw [render_association_of_isSkip_eq_false hskip, renderAssociation, hentries]

/-- The entries of an association that is taken are the pieces of its text. -/
theorem forall₂_isPieceOf_cut (hobjects : EachObject IsPiece v) {t : Text}
    (h : Tag.association.render v = .ok t) : List.Forall₂ IsPieceOf entries (cut t) := by
  rw [render_association_of_entries hentries] at h
  obtain ⟨parts, hparts, h⟩ := bind_eq_ok_iff.mp h
  obtain rfl : Value.commaSeparated parts = t := Except.ok.inj h
  have hentry : List.Forall₂ (fun entry part => IsEntry entry.1 entry.2 part) entries parts :=
    (forall₂_of_mapM_eq_ok hparts).imp fun entry part => isEntry_of_renderEntry_eq_ok
  have hpiece (part : Text) (hmem : part ∈ parts) : IsPiece part := by
    obtain ⟨entry, hentry, hpart⟩ := exists_mem_of_mapM_eq_ok hparts hmem
    exact isPiece_of_isEntry (hobjects entries hentries entry hentry)
      (isEntry_of_renderEntry_eq_ok hpart)
  rw [cut_commaSeparated hpiece]
  exact hentry.imp fun entry part h => h.written

section Writable

variable (hv : v.writable = true)

include hv

/-- An entry becomes a piece if it fits, and fails otherwise. -/
theorem isFit_iff_of_mem {entry : EntryKey × Value} (hmem : entry ∈ entries) :
    IsFit entry ↔ ∃ piece, renderEntry entry.1 entry.2 = .ok piece := by
  obtain ⟨hitem, hkey⟩ := writable_of_mem_associationEntries? hentries hv hmem
  constructor
  · exact exists_renderEntry_of_isFit hitem
  · rintro ⟨piece, hpiece⟩
    by_contra hfit
    obtain ⟨e, he, -⟩ := exists_renderEntry_of_not_isFit hkey hitem hfit
    rw [hpiece] at he
    cases he

/-- An association is refused for the first of its entries that does not fit. -/
theorem exists_isFaultOf {e : Failure} (h : Tag.association.render v = .error e) :
    ∃ front entry back, entries = front ++ entry :: back ∧
      (∀ earlier ∈ front, IsFit earlier) ∧ ¬IsFit entry ∧ IsFaultOf entry e := by
  rw [render_association_of_entries hentries] at h
  rcases bind_eq_error_iff.mp h with h | ⟨parts, -, h⟩
  · obtain ⟨front, entry, back, rfl, hfront, hentry⟩ := exists_split_of_mapM_eq_error h
    have hmem : entry ∈ front ++ entry :: back := by simp
    have hfit : ¬IsFit entry := by
      rw [isFit_iff_of_mem hentries hv hmem, hentry]
      rintro ⟨piece, hpiece⟩
      cases hpiece
    refine ⟨front, entry, back, rfl, ?_, hfit, ?_⟩
    · intro earlier hearlier
      exact (isFit_iff_of_mem hentries hv (by simp [hearlier])).mpr (hfront earlier hearlier)
    · obtain ⟨hitem, hkey⟩ := writable_of_mem_associationEntries? hentries hv hmem
      obtain ⟨e', he', hfault⟩ := exists_renderEntry_of_not_isFit hkey hitem hfit
      rw [hentry] at he'
      rwa [Except.error.inj he']
  · cases h

end Writable

end Entries

/-- An association takes exactly the lists and mappings whose entries fit. -/
theorem exists_render_association_iff {v : Value} (hv : v.writable = true) :
    (∃ t, Tag.association.render v = .ok t) ↔ IsAssociation v := by
  cases hentries : associationEntries? v with
  | none =>
    refine iff_of_false ?_ (not_isAssociation hentries)
    rintro ⟨t, ht⟩
    unfold render at ht
    split_ifs at ht
    rw [renderAssociation, hentries] at ht
    cases ht
  | some entries =>
    rw [isAssociation_iff hentries]
    constructor
    · rintro ⟨t, ht⟩ entry hmem
      rw [render_association_of_entries hentries] at ht
      obtain ⟨parts, hparts, -⟩ := bind_eq_ok_iff.mp ht
      exact (isFit_iff_of_mem hentries hv hmem).mpr (exists_eq_ok_of_mapM_eq_ok hparts hmem)
    · intro hfit
      cases hrender : Tag.association.render v with
      | ok t => exact ⟨t, rfl⟩
      | error e =>
        obtain ⟨front, entry, back, rfl, -, hunfit, -⟩ := exists_isFaultOf hentries hv hrender
        exact absurd (hfit entry (by simp)) hunfit

/-- An association takes the lists of elements and the mappings of elements under names and integers
that are not negative, and nothing else. It refuses the marker as misplaced, and any other value for
its type; a list or a mapping it refuses for the first of its entries that does not fit. A text that
it gives falls into one piece for each entry, if each object of another type reads as one piece. -/
theorem association_taken_iff_and_cut (v : Value) (hv : v.writable = true) :
    ((∃ t, Tag.association.render v = .ok t) ↔ IsAssociation v) ∧
    (∀ e, Tag.association.render v = .error e →
      (v = .skip ∧ e = .misplacedSkip .association ∨ v ≠ .skip ∧ e.kind = .unsupported) ∧
        ∀ entries, associationEntries? v = some entries → ∃ front entry back,
          entries = front ++ entry :: back ∧ (∀ earlier ∈ front, IsFit earlier) ∧ ¬IsFit entry ∧
            IsFaultOf entry e) ∧
    (EachObject IsPiece v → ∀ t, Tag.association.render v = .ok t →
      ∃ entries, associationEntries? v = some entries ∧
        List.Forall₂ IsPieceOf entries (cut t)) := by
  refine ⟨exists_render_association_iff hv, ?_, ?_⟩
  · intro e he
    refine ⟨?_, fun entries hentries => exists_isFaultOf hentries hv he⟩
    by_cases hskip : v = .skip
    · subst hskip
      exact Or.inl ⟨rfl, (Except.error.inj he).symm⟩
    · refine Or.inr ⟨hskip, ?_⟩
      rw [render_association_of_isSkip_eq_false (Value.isSkip_eq_false_iff.mpr hskip)] at he
      exact (renderAssociation_eq_error he).resolve_right fun hlong => by simp [hv] at hlong
  · intro hobjects t ht
    cases hentries : associationEntries? v with
    | none =>
      exact absurd ((exists_render_association_iff hv).mp ⟨t, ht⟩) (not_isAssociation hentries)
    | some entries => exact ⟨entries, rfl, forall₂_isPieceOf_cut hentries hobjects ht⟩

theorem association_taken_iff_and_cut_names :
    let v := Value.mapping [(.text "a', `b".toList, .text "x, 'y".toList),
      (.int 3, .decimal (.finite true ⟨15, -1⟩))]
    v.writable = true ∧ EachObject IsPiece v ∧ ∃ entries, associationEntries? v = some entries ∧
      List.Forall₂ IsPieceOf entries (cut "`a\\', ``b` = 'x, \\'y', -1.5".toList) := by
  intro v
  have hwritable : v.writable = true := by decide +kernel
  have hobjects : EachObject IsPiece v := by
    intro entries hentries entry hmem object hobject
    obtain rfl := Option.some.inj hentries
    simp only [List.map_cons, List.map_nil, List.mem_cons, List.not_mem_nil, or_false] at hmem
    rcases hmem with rfl | rfl <;> cases hobject
  obtain ⟨-, -, hcut⟩ := association_taken_iff_and_cut v hwritable
  exact ⟨hwritable, hobjects, hcut hobjects _ (by decide +kernel)⟩

/-- An item that is a mapping of any kind is refused, a mapping of another type is taken, and an
object of another type may fall into two pieces. -/
theorem exists_refused_and_taken_and_cut_in_two :
    let view := Foreign.mk "mappingproxy" "mappingproxy" "\x7b'a': 1\x7d".toList
      "mappingproxy(\x7b'a': 1\x7d)".toList
    let day := Foreign.mk "timedelta" "datetime.timedelta" "1 day, 0:00:00".toList
      "datetime.timedelta(days=1)".toList
    Tag.association.render (.list [.orderedMapping []]) =
        .error (.entryValue "0".toList "OrderedDict()".toList) ∧
      Tag.association.render (.foreignMapping view [(.text "a".toList, .int 1)]) =
        .ok "`a` = 1".toList ∧
      ∃ t, Tag.association.render (.list [.object day]) = .ok t ∧
        cut t = ["1 day".toList, "0:00:00".toList] := by
  intro view day
  exact ⟨by decide +kernel, by decide +kernel, "1 day, 0:00:00".toList, by decide +kernel, rfl⟩

end QueryTemplate.Tag
