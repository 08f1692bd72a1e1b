import QueryTemplate.Proofs.Template.Outcome
import QueryTemplate.Proofs.Template.Standing

/-! Runs that are too long to be a tag. A placeholder with such a run is refused when it is filled,
whatever its argument is. It goes unnoticed where it is not filled: in a block that is dropped. -/

namespace QueryTemplate.Template

open Segment Failure

/-- The placeholder in front of a text has a run of two characters or more. -/
def IsOverlong (after : Text) : Prop := 2 ≤ (after.takeWhile Tag.isTagChar).length

instance (after : Text) : Decidable (IsOverlong after) := inferInstanceAs (Decidable (2 ≤ _))

/-- A template is accepted, every placeholder whose run is too long is dropped with its block, and
each of the others is dropped or has a text. -/
structure IsLetThrough (s : Text) (args : List Value) : Prop where
  accepted : validate s args.length = .ok ()
  dropped : ∀ number before after, IsMark s number before after → IsOverlong after →
    IsDropped args number before after
  filled : ∀ number before after, IsMark s number before after → ¬IsOverlong after →
    IsDropped args number before after ∨ HasText args number after

/-- The leftmost placeholder that is not dropped and has no text has to write an integer of its
argument that is too long to be written. -/
def IsOutOfDigits (s : Text) (args : List Value) : Prop :=
  validate s args.length = .ok () ∧ ∃ number before after v,
    FailsFirst s args number before after .integerTooLong ∧ args[number]? = some v ∧
      v.writable = false

theorem ofRun?_eq_none_of_two_le_length {run : Text} (h : 2 ≤ run.length) :
    Tag.ofRun? run = none := by
  match run, h with
  | c :: d :: rest, _ => rw [Tag.ofRun?] <;> simp

theorem not_hasText_of_isOverlong {args : List Value} {number : Nat} {after : Text}
    (h : IsOverlong after) : ¬HasText args number after := by
  rintro ⟨x, hx⟩
  rw [slotText, ofRun?_eq_none_of_two_le_length h] at hx
  cases hx

theorem exists_compile_eq_ok_iff_isLetThrough (s : Text) (args : List Value) :
    (∃ sql, compile s args = .ok sql) ↔ IsLetThrough s args := by
  rw [exists_compile_eq_ok_iff]
  constructor
  · rintro ⟨hvalid, htexts⟩
    refine ⟨hvalid, ?_, ?_⟩
    · intro number before after hmark hlong
      by_contra hstands
      exact not_hasText_of_isOverlong hlong (htexts number before after hmark hstands)
    · intro number before after hmark _
      exact or_iff_not_imp_left.mpr (htexts number before after hmark)
  · rintro ⟨hvalid, hdropped, hfilled⟩
    refine ⟨hvalid, fun number before after hmark hstands => ?_⟩
    by_cases hlong : IsOverlong after
    · exact absurd (hdropped number before after hmark hlong) hstands
    · exact (hfilled number before after hmark hlong).resolve_left hstands

theorem compile_eq_integerTooLong_iff (s : Text) (args : List Value) :
    compile s args = .error .integerTooLong ↔ IsOutOfDigits s args := by
  constructor
  · intro h
    cases hvalid : validate s args.length with
    | error e =>
      have hkind := isA_template_of_validate_eq_error hvalid
      rw [compile, hvalid] at h
      rw [Except.error.inj h] at hkind
      exact absurd hkind (by decide)
    | ok _ =>
      obtain ⟨number, before, after, hfirst⟩ := (compile_eq_error_iff_failsFirst hvalid _).mp h
      have hlt : number < args.length := by
        rw [← (accepted_of_validate_eq_ok hvalid).2]
        exact lt_count_of_isMark hfirst.mark
      refine ⟨hvalid, number, before, after, args[number], hfirst,
        List.getElem?_eq_getElem hlt, ?_⟩
      rcases slotText_eq_error hlt hfirst.failure with hrun | ⟨tag, -, hrender⟩
      · cases hrun
      · rcases Tag.render_eq_error hrender with (hkind | ⟨-, hnot⟩) | ⟨-, -, he⟩
        · exact absurd hkind (by decide)
        · exact hnot
        · cases he
  · rintro ⟨hvalid, number, before, after, v, hfirst, -⟩
    exact (compile_eq_error_iff_failsFirst hvalid _).mpr ⟨number, before, after, hfirst⟩

/-- A template is refused unless it is let through, or an integer is in the way. -/
theorem exists_refusal_iff (s : Text) (args : List Value) :
    (∃ e, compile s args = .error e ∧ e.kind.isA .template = true) ↔
      ¬(IsLetThrough s args ∨ Overflows s args ∨ IsOutOfDigits s args) := by
  rw [← exists_compile_eq_ok_iff_isLetThrough, ← compile_eq_integerTooLong_iff]
  constructor
  · rintro ⟨e, he, hkind⟩ (⟨sql, hsql⟩ | hover | hlong)
    · rw [he] at hsql
      cases hsql
    · exact not_refused_of_overflows hover ⟨e, he, hkind⟩
    · rw [Except.error.inj (he.symm.trans hlong)] at hkind
      exact absurd hkind (by decide)
  · intro hnot
    cases hcompile : compile s args with
    | ok sql => exact absurd (Or.inl ⟨sql, hcompile⟩) hnot
    | error e =>
      rcases isA_template_or_unwritable_or_overflows hcompile with hkind | ⟨rfl, -⟩ | hover
      · exact ⟨e, rfl, hkind⟩
      · exact absurd (Or.inr (Or.inr hcompile)) hnot
      · exact absurd (Or.inr (Or.inl hover)) hnot

/-- A template with a run that is too long is refused unless it is let through or an integer is in
the way, whatever the arguments; and it is let through only if the placeholder with that run is
dropped. -/
theorem overlong_refused_iff (s : Text) (args : List Value) {number : Nat} {before after : Text}
    (hmark : IsMark s number before after) (hlong : IsOverlong after) :
    ((∃ e, compile s args = .error e ∧ e.kind.isA .template = true) ↔
      ¬(IsLetThrough s args ∨ Overflows s args ∨ IsOutOfDigits s args)) ∧
    ((∃ sql, compile s args = .ok sql) ↔ IsLetThrough s args) ∧
    (IsLetThrough s args → IsDropped args number before after) :=
  ⟨exists_refusal_iff s args, exists_compile_eq_ok_iff_isLetThrough s args,
    fun hthrough => hthrough.dropped number before after hmark hlong⟩

theorem overlong_refused_iff_dropped :
    IsMark "{?dd}".toList 0 ['{'] "dd\x7d".toList ∧ IsOverlong "dd\x7d".toList ∧
      IsDropped [.skip] 0 ['{'] "dd\x7d".toList := by
  have hmark : IsMark "{?dd}".toList 0 ['{'] "dd\x7d".toList := ⟨rfl, rfl⟩
  have hlong : IsOverlong "dd\x7d".toList := by decide
  obtain ⟨-, hfilled, hdropped⟩ := overlong_refused_iff "{?dd}".toList [.skip] hmark hlong
  exact ⟨hmark, hlong, hdropped (hfilled.mp ⟨[], by decide +kernel⟩)⟩

/-- A run that is too long does not suffice for a template to be refused. -/
theorem exists_overlong_filled :
    ¬∀ (s : Text) (args : List Value),
      (∃ number before after, IsMark s number before after ∧ IsOverlong after) →
        ∃ e, compile s args = .error e ∧ e.kind.isA .template = true := by
  intro h
  obtain ⟨e, he, -⟩ := h "{?dd}".toList [.skip] ⟨0, ['{'], "dd\x7d".toList, ⟨rfl, rfl⟩, by decide⟩
  have hfilled : compile "{?dd}".toList [.skip] = .ok [] := by decide +kernel
  rw [hfilled] at he
  cases he

end QueryTemplate.Template
