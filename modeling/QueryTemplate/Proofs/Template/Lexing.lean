import QueryTemplate.Proofs.Template.Binding
import QueryTemplate.Proofs.Template.Integer
import QueryTemplate.Proofs.Template.Literal

/-! How the text of a template is read does not depend on its arguments. If every placeholder stands
outside of quotes, the readers of two outputs of one template are at the same place before and
after everything that the template itself contributes. -/

namespace QueryTemplate.Tag

open Failure Number Sql

/-! ### What placeholders become -/

theorem neutral_renderInteger {v : Value} {t : Text} (h : renderInteger v = .ok t) : Neutral t := by
  obtain ⟨-, rfl⟩ | ⟨n, -, rfl, -⟩ := exists_of_renderInteger_eq_ok h
  · rfl
  · exact (plain_intText n).neutral

theorem neutral_renderNumber {v : Value} {t : Text} (h : renderNumber v = .ok t) : Neutral t := by
  unfold renderNumber at h
  split at h
  · rw [← Except.ok.inj h]
    rfl
  · split_ifs at h
    split at h
    · exact absurd h bind_throw_ne_ok
    · rename_i x _
      split_ifs at h
      · rw [← Except.ok.inj h]
        exact (plain_binary64 x).neutral
      · exact absurd h bind_throw_ne_ok

theorem neutral_nameText? {v : Value} {t : Text} (h : nameText? v = some t) : Neutral t := by
  cases v with
  | text s =>
    rw [← Option.some.inj h]
    exact neutral_quoteName s
  | _ => cases h

theorem neutral_renderName {v : Value} {t : Text} (h : renderName v = .ok t) : Neutral t := by
  unfold renderName at h
  split at h
  · rename_i s hs
    rw [Except.ok.inj h] at hs
    exact neutral_nameText? hs
  · split at h
    · rename_i items _ _ _ names hnames
      rw [← Except.ok.inj h]
      apply neutral_commaSeparated
      intro name hname
      obtain ⟨item, -, hitem⟩ := exists_mem_of_mapM_eq_some hnames hname
      exact neutral_nameText? hitem
    · exact absurd h bind_throw_ne_ok
  · cases h

theorem neutral_label (key : EntryKey) : Neutral (label key) := by
  unfold label
  split
  · exact neutral_append (neutral_quoteName _) rfl
  · rfl

theorem neutral_renderEntry {key : EntryKey} {item : Value} {t : Text}
    (hobject : ∀ form, item = .object form → Neutral form.plain)
    (h : renderEntry key item = .ok t) : Neutral t := by
  have hentry := isEntry_of_renderEntry_eq_ok h
  obtain ⟨value, hvalue, rfl⟩ := hentry.written
  exact neutral_append (neutral_label key) (neutral_literal hentry.isContainer hobject hvalue)

theorem neutral_renderAssociation {v : Value} {t : Text} (hobjects : EachObject Neutral v)
    (h : renderAssociation v = .ok t) : Neutral t := by
  unfold renderAssociation at h
  split at h
  · rename_i entries hentries
    obtain ⟨parts, hparts, h⟩ := bind_eq_ok_iff.mp h
    rw [← Except.ok.inj h]
    apply neutral_commaSeparated
    intro part hpart
    obtain ⟨entry, hmem, hentry⟩ := exists_mem_of_mapM_eq_ok hparts hpart
    exact neutral_renderEntry (hobjects entries hentries entry hmem) hentry
  · cases h

theorem neutral_renderScalar {v : Value} {t : Text} (h : renderScalar v = .ok t) : Neutral t := by
  unfold renderScalar at h
  split at h
  case h_6 => cases h
  all_goals exact neutral_literal rfl (by simp) h

/-- No argument opens or closes a quote, unless it is an object of another type that does. -/
theorem neutral_render {tag : Tag} {v : Value} {t : Text} (hobjects : EachObject Neutral v)
    (h : tag.render v = .ok t) : Neutral t := by
  unfold render at h
  split_ifs at h
  cases tag with
  | scalar => exact neutral_renderScalar h
  | integer => exact neutral_renderInteger h
  | number => exact neutral_renderNumber h
  | association => exact neutral_renderAssociation hobjects h
  | name => exact neutral_renderName h

end QueryTemplate.Tag

namespace QueryTemplate.Template

open Failure Sql

/-! ### Two runs of one template -/

theorem neutral_slotText {args : List Value} {number : Nat} {run t : Text}
    (hobjects : ∀ v ∈ args, Tag.EachObject Neutral v) (h : slotText args number run = .ok t) :
    Neutral t := by
  rw [slotText] at h
  split at h
  · cases h
  · split at h
    · rename_i v hv
      exact Tag.neutral_render (hobjects v (List.mem_of_getElem? hv)) h
    · cases h

/-- Every slot is entered outside of quotes. -/
def OutsideAtSlots (args : List Value) (all : List Piece) : Prop :=
  ∀ front number run back x, all = front ++ .slot number run :: back →
    joined args front = .ok x → Place.outside.after x = .outside

theorem outsideAtSlots_of_append {args : List Value} {front back : List Piece}
    (h : OutsideAtSlots args (front ++ back)) : OutsideAtSlots args front := by
  rintro before number run between x rfl hx
  apply h before number run (between ++ back) x _ hx
  simp

section Readers

variable {args args' : List Value} (hobjects : ∀ v ∈ args, Tag.EachObject Neutral v)
  (hobjects' : ∀ v ∈ args', Tag.EachObject Neutral v)

include hobjects hobjects'

/-- One piece takes the readers of two runs from one place to one place. -/
theorem after_eq_of_text {piece : Piece} {place : Place} {t t' : Text}
    (hplace : ∀ number run, piece = .slot number run → place = .outside)
    (ht : piece.text args = .ok t) (ht' : piece.text args' = .ok t') :
    place.after t = place.after t' := by
  cases piece with
  | kept c => rw [← Except.ok.inj ht, ← Except.ok.inj ht']
  | nothing => rw [← Except.ok.inj ht, ← Except.ok.inj ht']
  | slot number run =>
    rw [hplace number run rfl]
    exact (neutral_slotText hobjects ht).trans (neutral_slotText hobjects' ht').symm

/-- So do all pieces up to any place. -/
theorem after_eq_of_joined {all : List Piece} {x x' : Text}
    (houtside : OutsideAtSlots args all) (hx : joined args all = .ok x)
    (hx' : joined args' all = .ok x') : Place.outside.after x = Place.outside.after x' := by
  induction all using List.reverseRecOn generalizing x x' with
  | nil => rw [← Except.ok.inj hx, ← Except.ok.inj hx']
  | append_singleton front piece ih =>
    obtain ⟨y, t, hy, ht, rfl⟩ := (joined_append_eq_ok_iff args).mp hx
    obtain ⟨y', t', hy', ht', rfl⟩ := (joined_append_eq_ok_iff args').mp hx'
    have hplace : ∀ number run, piece = .slot number run → Place.outside.after y = .outside :=
      fun number run hpiece => houtside front number run [] y (by rw [hpiece]) hy
    rw [Place.after_append, Place.after_append,
      ← ih (outsideAtSlots_of_append houtside) hy hy']
    rw [joined_singleton] at ht ht'
    exact after_eq_of_text hobjects hobjects' hplace ht ht'

end Readers

theorem skipsOf_eq_of_skip_iff {args args' : List Value}
    (h : ∀ number : Nat, args[number]? = some .skip ↔ args'[number]? = some .skip) :
    skipsOf args = skipsOf args' := by
  funext number
  rw [Bool.eq_iff_iff, skipsOf_eq_true_iff, skipsOf_eq_true_iff]
  exact h number

/-- An output cut at one of its pieces: what stands before the piece, and the text of the piece. -/
def IsCut (args : List Value) (front : List Piece) (piece : Piece) (back : List Piece)
    (sql x t : Text) : Prop :=
  joined args front = .ok x ∧ piece.text args = .ok t ∧
    ∃ y, joined args back = .ok y ∧ sql = x ++ t ++ y

theorem exists_isCut {args : List Value} {front back : List Piece} {piece : Piece} {sql : Text}
    (h : joined args (front ++ piece :: back) = .ok sql) :
    ∃ x t, IsCut args front piece back sql x t := by
  obtain ⟨x, rest, hx, hrest, rfl⟩ := (joined_append_eq_ok_iff args).mp h
  rw [← List.singleton_append, joined_append_eq_ok_iff] at hrest
  obtain ⟨t, y, ht, hy, rfl⟩ := hrest
  rw [joined_singleton] at ht
  exact ⟨x, t, hx, ht, y, hy, by rw [List.append_assoc]⟩

/-- Two outputs of one template, with the same blocks skipped, are read alike. If every placeholder
of the first stands outside of quotes, both readers are at the same place before and after every
piece, and outside of quotes after every placeholder. Objects of other types in an association are
to read as they like, but not to open or close a quote. -/
theorem read_alike (s : Text) {args args' : List Value} {sql sql' : Text}
    (hobjects : ∀ v ∈ args, Tag.EachObject Neutral v)
    (hobjects' : ∀ v ∈ args', Tag.EachObject Neutral v)
    (hsql : compile s args = .ok sql) (hsql' : compile s args' = .ok sql')
    (hskip : ∀ number : Nat, args[number]? = some .skip ↔ args'[number]? = some .skip)
    (houtside : OutsideAtSlots args (pieces true (skipsOf args) s)) :
    pieces true (skipsOf args') s = pieces true (skipsOf args) s ∧
      ∀ front piece back, pieces true (skipsOf args) s = front ++ piece :: back →
        ∃ x t x' t', IsCut args front piece back sql x t ∧ IsCut args' front piece back sql' x' t' ∧
          Place.outside.after x = Place.outside.after x' ∧
          Place.outside.after (x ++ t) = Place.outside.after (x' ++ t') ∧
          ∀ number run, piece = .slot number run → Place.outside.after (x ++ t) = .outside := by
  rw [compile_eq_joined (validate_of_compile_eq_ok hsql)] at hsql
  rw [compile_eq_joined (validate_of_compile_eq_ok hsql'), ← skipsOf_eq_of_skip_iff hskip] at hsql'
  refine ⟨by rw [skipsOf_eq_of_skip_iff hskip], ?_⟩
  intro front piece back hsplit
  rw [hsplit] at hsql hsql' houtside
  obtain ⟨x, t, hcut⟩ := exists_isCut hsql
  obtain ⟨x', t', hcut'⟩ := exists_isCut hsql'
  have hplace : ∀ number run, piece = .slot number run → Place.outside.after x = .outside :=
    fun number run hpiece => houtside front number run back x (by rw [hpiece]) hcut.1
  have hbefore :=
    after_eq_of_joined hobjects hobjects' (outsideAtSlots_of_append houtside) hcut.1 hcut'.1
  refine ⟨x, t, x', t', hcut, hcut', hbefore, ?_, ?_⟩
  · rw [Place.after_append, Place.after_append, ← hbefore]
    exact after_eq_of_text hobjects hobjects' hplace hcut.2.1 hcut'.2.1
  · intro number run hpiece
    rw [Place.after_append, hplace number run hpiece]
    rw [hpiece] at hcut
    exact neutral_slotText hobjects hcut.2.1

/-! ### A placeholder after a literal -/

theorem outsideAtSlots_after_literal : OutsideAtSlots [.text ['\'']]
    (pieces true (skipsOf [.text ['\'']]) "'' ?".toList) := by
  have hpieces : pieces true (skipsOf [.text ['\'']]) "'' ?".toList =
      [.kept '\'', .kept '\'', .kept ' ', .slot 0 []] := by decide
  intro front number run back x hsplit hx
  rw [hpieces] at hsplit
  rcases front with _ | ⟨p, _ | ⟨q, _ | ⟨r, _ | ⟨u, front⟩⟩⟩⟩ <;> simp at hsplit
  obtain ⟨rfl, rfl, rfl, -⟩ := hsplit
  cases hx
  rfl

theorem read_alike_after_literal :
    (∀ v ∈ [Value.text ['\'']], Tag.EachObject Neutral v) ∧
      (∀ v ∈ [Value.text []], Tag.EachObject Neutral v) ∧
      compile "'' ?".toList [.text ['\'']] = .ok "'' '\\''".toList ∧
      compile "'' ?".toList [.text []] = .ok "'' ''".toList ∧
      (∀ number : Nat, [Value.text ['\'']][number]? = some Value.skip ↔
        [Value.text []][number]? = some Value.skip) ∧
      pieces true (skipsOf [.text []]) "'' ?".toList =
        pieces true (skipsOf [.text ['\'']]) "'' ?".toList := by
  have hsql : compile "'' ?".toList [.text ['\'']] = .ok "'' '\\''".toList := by decide +kernel
  have hsql' : compile "'' ?".toList [.text []] = .ok "'' ''".toList := by decide +kernel
  have hskip : ∀ number : Nat, [Value.text ['\'']][number]? = some Value.skip ↔
      [Value.text []][number]? = some Value.skip := by
    intro number
    cases number <;> simp
  have hobjects (s : Text) : ∀ v ∈ [Value.text s], Tag.EachObject Neutral v := by
    intro v hv entries hentries
    obtain rfl := List.mem_singleton.mp hv
    cases hentries
  exact ⟨hobjects _, hobjects _, hsql, hsql', hskip,
    (read_alike "'' ?".toList (hobjects _) (hobjects _) hsql hsql' hskip
      outsideAtSlots_after_literal).1⟩

end QueryTemplate.Template
