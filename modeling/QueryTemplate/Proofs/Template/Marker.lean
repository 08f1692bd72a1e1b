import QueryTemplate.Proofs.Template.Literal
import QueryTemplate.Proofs.Template.Standing

/-! Where the skip marker may stand. It is taken as the argument of a block and nowhere else: no
placeholder that stands takes it, be it the argument itself or anything inside of it. The failure
says which of the two it was. -/

namespace QueryTemplate.Value

mutual

/-- Whether a value is the skip marker or holds it somewhere, as an item, a key or a value. -/
def mentionsSkip : Value → Bool
  | .skip => true
  | .list items | .tuple items | .set items | .frozenSet items => anyMentionsSkip items
  | .mapping entries | .orderedMapping entries | .foreignMapping _ entries =>
    entriesMentionSkip entries
  | _ => false

def anyMentionsSkip : List Value → Bool
  | [] => false
  | v :: rest => v.mentionsSkip || anyMentionsSkip rest

def entriesMentionSkip : List (Value × Value) → Bool
  | [] => false
  | (key, value) :: rest => key.mentionsSkip || value.mentionsSkip || entriesMentionSkip rest

end

theorem anyMentionsSkip_eq_false_iff (items : List Value) :
    anyMentionsSkip items = false ↔ ∀ v ∈ items, v.mentionsSkip = false := by
  induction items with
  | nil => simp [anyMentionsSkip]
  | cons v items ih => rw [anyMentionsSkip, Bool.or_eq_false_iff, ih, List.forall_mem_cons]

theorem entriesMentionSkip_eq_false_iff (entries : List (Value × Value)) :
    entriesMentionSkip entries = false ↔
      ∀ entry ∈ entries, entry.1.mentionsSkip = false ∧ entry.2.mentionsSkip = false := by
  induction entries with
  | nil => simp [entriesMentionSkip]
  | cons entry entries ih =>
    rw [entriesMentionSkip, Bool.or_eq_false_iff, Bool.or_eq_false_iff, ih, List.forall_mem_cons]

theorem mentionsSkip_eq_false_of_scalar {v : Value} (hskip : v.isSkip = false)
    (hcontainer : v.isContainer = false) : v.mentionsSkip = false := by
  cases v with
  | skip => cases hskip
  | list | tuple | set | frozenSet | mapping | orderedMapping | foreignMapping => cases hcontainer
  | _ => rfl

end QueryTemplate.Value

namespace QueryTemplate.Tag

open Failure

/-! ### What placeholders take -/

theorem mentionsSkip_of_renderInteger_eq_ok {v : Value} {t : Text} (h : renderInteger v = .ok t) :
    v.mentionsSkip = false := by
  cases v with
  | list | tuple | set | frozenSet | mapping | orderedMapping | foreignMapping | skip =>
    exact absurd h bind_throw_ne_ok
  | _ => rfl

theorem mentionsSkip_of_renderNumber_eq_ok {v : Value} {t : Text} (h : renderNumber v = .ok t) :
    v.mentionsSkip = false := by
  cases v with
  | list | tuple | set | frozenSet | mapping | orderedMapping | foreignMapping | skip =>
    exact absurd h bind_throw_ne_ok
  | _ => rfl

theorem mentionsSkip_of_renderScalar_eq_ok {v : Value} {t : Text} (h : renderScalar v = .ok t) :
    v.mentionsSkip = false := by
  cases v with
  | list | tuple | set | frozenSet | mapping | orderedMapping | foreignMapping | skip => cases h
  | _ => rfl

/-- Names are texts. -/
theorem mentionsSkip_of_renderName_eq_ok {v : Value} {t : Text} (h : renderName v = .ok t) :
    v.mentionsSkip = false := by
  have hitems (items : List Value) (hnames : items.mapM nameText? ≠ none) :
      Value.anyMentionsSkip items = false := by
    obtain ⟨names, hnames⟩ := Option.ne_none_iff_exists'.mp hnames
    rw [Value.anyMentionsSkip_eq_false_iff]
    intro item hitem
    obtain ⟨name, hname⟩ := exists_eq_some_of_mapM_eq_some hnames hitem
    cases item with
    | text s => rfl
    | _ => cases hname
  cases v with
  | list items | tuple items =>
    apply hitems
    intro hnone
    simp only [renderName, nameText?, Value.items?, hnone] at h
    exact absurd h bind_throw_ne_ok
  | set | frozenSet | mapping | orderedMapping | foreignMapping | skip => cases h
  | _ => rfl

/-- An entry of an association is a scalar under a place, a number or a name. -/
theorem mentionsSkip_of_renderEntry_eq_ok {key : EntryKey} {item : Value} {t : Text}
    (h : renderEntry key item = .ok t) :
    item.mentionsSkip = false ∧ ∀ v, key = .key v → v.mentionsSkip = false := by
  have hentry := isEntry_of_renderEntry_eq_ok h
  refine ⟨Value.mentionsSkip_eq_false_of_scalar hentry.isSkip hentry.isContainer, ?_⟩
  intro v hkey
  rcases hentry.named v hkey with ⟨n, rfl⟩ | ⟨s, rfl⟩ <;> rfl

theorem mentionsSkip_of_renderAssociation_eq_ok {v : Value} {t : Text}
    (h : renderAssociation v = .ok t) : v.mentionsSkip = false := by
  unfold renderAssociation at h
  split at h
  · rename_i entries hentries
    obtain ⟨parts, hparts, -⟩ := bind_eq_ok_iff.mp h
    have hentry (entry : EntryKey × Value) (hmem : entry ∈ entries) :
        entry.2.mentionsSkip = false ∧ ∀ v, entry.1 = .key v → v.mentionsSkip = false := by
      obtain ⟨part, hpart⟩ := exists_eq_ok_of_mapM_eq_ok hparts hmem
      exact mentionsSkip_of_renderEntry_eq_ok hpart
    cases v with
    | list items | tuple items =>
      obtain rfl := Option.some.inj hentries
      rw [Value.mentionsSkip, Value.anyMentionsSkip_eq_false_iff]
      intro item hitem
      obtain ⟨i, hi, rfl⟩ := List.mem_iff_getElem.mp hitem
      exact (hentry _ (List.mem_mapIdx.mpr ⟨i, hi, rfl⟩)).1
    | mapping pairs | orderedMapping pairs | foreignMapping _ pairs =>
      obtain rfl := Option.some.inj hentries
      rw [Value.mentionsSkip, Value.entriesMentionSkip_eq_false_iff]
      intro pair hpair
      have hboth := hentry _ (List.mem_map_of_mem hpair)
      exact ⟨hboth.2 _ rfl, hboth.1⟩
    | _ => cases hentries
  · cases h

/-- No placeholder takes the skip marker, or a value that holds it. -/
theorem mentionsSkip_of_render_eq_ok {tag : Tag} {v : Value} {t : Text}
    (h : tag.render v = .ok t) : v.mentionsSkip = false := by
  unfold render at h
  split_ifs at h
  cases tag with
  | scalar => exact mentionsSkip_of_renderScalar_eq_ok h
  | integer => exact mentionsSkip_of_renderInteger_eq_ok h
  | number => exact mentionsSkip_of_renderNumber_eq_ok h
  | association => exact mentionsSkip_of_renderAssociation_eq_ok h
  | name => exact mentionsSkip_of_renderName_eq_ok h

end QueryTemplate.Tag

namespace QueryTemplate.Template

open Segment Failure

/-! ### Where the marker stands -/

variable {s : Text} {args : List Value} {number : Nat} {before after : Text} {v : Value}

theorem mentionsSkip_of_hasText (hv : args[number]? = some v) (h : HasText args number after) :
    v.mentionsSkip = false := by
  obtain ⟨x, hx⟩ := h
  rw [slotText, hv] at hx
  cases htag : Tag.ofRun? (after.takeWhile Tag.isTagChar) with
  | none =>
    rw [htag] at hx
    cases hx
  | some tag =>
    rw [htag] at hx
    exact Tag.mentionsSkip_of_render_eq_ok hx

/-- In a template that is filled the marker stands for a block. -/
theorem exists_isEnclosed_of_compile_eq_ok {sql : Text} (h : compile s args = .ok sql)
    (hskip : args[number]? = some .skip) :
    ∃ before after, IsMark s number before after ∧ IsEnclosed before ('?' :: after) := by
  obtain ⟨hvalid, htexts⟩ := (exists_compile_eq_ok_iff s args).mp ⟨sql, h⟩
  have hlt : number < s.count '?' := by
    rw [(accepted_of_validate_eq_ok hvalid).2]
    exact (List.getElem?_eq_some_iff.mp hskip).1
  obtain ⟨before, after, hmark⟩ := exists_isMark hlt
  refine ⟨before, after, hmark, ?_⟩
  by_contra henclosed
  have htext := htexts number before after hmark fun hdropped => henclosed hdropped.1
  have hmentions := mentionsSkip_of_hasText hskip htext
  cases hmentions

/-- The placeholder that a template fails at does not take its argument. -/
theorem FailsFirst.render_eq_error {e : Failure} {tag : Tag}
    (h : FailsFirst s args number before after e)
    (htag : Tag.ofRun? (after.takeWhile Tag.isTagChar) = some tag) (hv : args[number]? = some v) :
    tag.render v = .error e := by
  have hfailure := h.failure
  rwa [slotText, htag, hv] at hfailure

theorem kind_of_render_skip_eq_error {e : Failure} {tag : Tag}
    (h : tag.render .skip = .error e) : e.kind = .misplacedSkip := by
  rw [← Except.error.inj h]
  rfl

/-- A value that holds the marker is refused as any value of its type is. -/
theorem kind_of_render_eq_error {e : Failure} {tag : Tag} (hwritable : v.writable = true)
    (hne : v ≠ .skip) (hmentions : v.mentionsSkip = true) (h : tag.render v = .error e) :
    e.kind = .unsupported := by
  rcases Tag.render_eq_error_of_isSkip_eq_false (Value.isSkip_eq_false_iff.mpr hne) h with
    (hkind | ⟨-, hunwritable⟩) | ⟨-, hlarge, -⟩
  · exact hkind
  · rw [hwritable] at hunwritable
    cases hunwritable
  · cases v with
    | int n => cases hmentions
    | _ => cases hlarge

/-- In a template that is filled every skip marker among the arguments stands for a block, and no
argument of a placeholder that stands holds one. Where a template fails at a placeholder with a tag,
a marker as its argument is misplaced, and a value that holds one is refused for its type. -/
theorem skip_only_for_blocks (s : Text) (args : List Value)
    (hargs : ∀ v ∈ args, v.writable = true) :
    (∀ sql, compile s args = .ok sql →
      (∀ number, args[number]? = some .skip → ∃ before after,
        IsMark s number before after ∧ IsEnclosed before ('?' :: after)) ∧
      ∀ number before after v, IsMark s number before after →
        ¬IsDropped args number before after → args[number]? = some v → v.mentionsSkip = false) ∧
    (validate s args.length = .ok () → ∀ number before after e,
      FailsFirst s args number before after e → ∀ tag v,
        Tag.ofRun? (after.takeWhile Tag.isTagChar) = some tag → args[number]? = some v →
          compile s args = .error e ∧ (v = .skip → e.kind = .misplacedSkip) ∧
            (v ≠ .skip → v.mentionsSkip = true → e.kind = .unsupported)) := by
  constructor
  · intro sql hsql
    refine ⟨fun number => exists_isEnclosed_of_compile_eq_ok hsql, ?_⟩
    intro number before after v hmark hstands hv
    have htexts := ((exists_compile_eq_ok_iff s args).mp ⟨sql, hsql⟩).2
    exact mentionsSkip_of_hasText hv (htexts number before after hmark hstands)
  · intro hvalid number before after e hfirst tag v htag hv
    have hrender := hfirst.render_eq_error htag hv
    refine ⟨(compile_eq_error_iff_failsFirst hvalid e).mpr ⟨number, before, after, hfirst⟩, ?_, ?_⟩
    · rintro rfl
      exact kind_of_render_skip_eq_error hrender
    · intro hne hmentions
      exact kind_of_render_eq_error (hargs v (List.mem_of_getElem? hv)) hne hmentions hrender

theorem skip_only_for_blocks_in_list :
    ∃ e, compile "{?} ?a".toList [.skip, .list [.skip]] = .error e ∧
      e.kind = .unsupported := by
  have hwritable : ∀ v ∈ [Value.skip, .list [.skip]], v.writable = true := by
    simp [Value.writable, Value.allWritable]
  have hdropped : IsDropped [.skip, .list [.skip]] 0 ['{'] "\x7d ?a".toList :=
    ⟨⟨[], [], ['?'], " ?a".toList, rfl, rfl, by simp [isBrace]⟩, rfl⟩
  have hfirst : FailsFirst "{?} ?a".toList [.skip, .list [.skip]] 1 "{?} ".toList
      ['a'] (.entryValue "0".toList "<skip>".toList) := by
    refine ⟨⟨rfl, rfl⟩, (fun h => by cases h.2), by decide +kernel, ?_⟩
    intro number hnumber before after hmark hstands
    obtain rfl := Nat.lt_one_iff.mp hnumber
    obtain ⟨rfl, rfl⟩ := hmark.unique
      (show IsMark "{?} ?a".toList 0 ['{'] "\x7d ?a".toList from ⟨rfl, rfl⟩)
    exact absurd hdropped hstands
  obtain ⟨he, -, hkind⟩ := (skip_only_for_blocks _ _ hwritable).2 (by decide +kernel) 1 _ _ _
    hfirst .association (.list [.skip]) rfl rfl
  exact ⟨_, he, hkind (by simp) rfl⟩

end QueryTemplate.Template
