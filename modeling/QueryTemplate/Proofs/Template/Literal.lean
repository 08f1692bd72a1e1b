import QueryTemplate.Proofs.Number.Notation
import QueryTemplate.Proofs.Sql.Escaped
import QueryTemplate.Proofs.Sql.Quotation
import QueryTemplate.Template.Render

/-! The forms of the literals that placeholders become. Nothing, truth values, numbers and texts
have one form each. A list may hold dates, bytes and values of other types besides, which are
written as they read, without quotes around them. Numbers that are not finite go by names. -/

namespace QueryTemplate.Sql

open Number Numeral Failure

/-- The form of each kind of literal. Dates, bytes, other objects and collections have none. -/
def IsLiteral : Value → Text → Prop
  | .null, t => t = "NULL".toList
  | .bool b, t => t = if b then ['1'] else ['0']
  | .int _, t | .float _, t | .decimal _, t => IsNumeral t
  | .text s, t => ∃ body, t = '\'' :: body ++ ['\''] ∧ IsEscaped body ∧ unescape body = s
  | _, _ => False

def Denotes (ds : Text) (n : Nat) : Prop := isDigits ds = true ∧ ofDigits ds = n

/-- Three rows of digits, for the year, the month and the day. -/
def IsDate (year month day : Nat) (t : Text) : Prop :=
  ∃ ys ms ds, t = ys ++ '-' :: (ms ++ '-' :: ds) ∧ Denotes ys year ∧ Denotes ms month ∧
    Denotes ds day

/-- How a value is written: as a literal if it is of a kind with a form, and as it reads otherwise.
Markers and collections are not written. -/
def IsWritten : Value → Text → Prop
  | .int n, t => t = intText n ∧ IsNumeral t
  | .float x, t => t = x.text ∧ (x.isFinite = true → IsNumeral t)
  | .decimal x, t => t = x.text ∧ (x.isFinite = true → IsNumeral t)
  | .bytes data, t => t = Text.quotedBytes data ∧
    ∃ quote body, t = 'b' :: quote :: body ++ [quote] ∧ (quote = '\'' ∨ quote = '"')
  | .date year month day, t =>
    (Value.date year month day).plain? = some t ∧ IsDate year month day t
  | .object form, t => t = form.plain
  | v, t => IsLiteral v t

/-- What a value is written as that is taken. Besides an object that reads so, only nothing is
`NULL`. -/
structure IsTaken (v : Value) (t : Text) : Prop where
  isSkip : v.isSkip = false
  isContainer : v.isContainer = false
  written : IsWritten v t
  null : (∀ form, v ≠ .object form) → (t = "NULL".toList ↔ v = .null)

/-! ### Literals -/

theorem denotes_padded (width n : Nat) : Denotes (Value.padded width n) n := by
  constructor
  · exact isDigits_zeros_append _ (isDigits_digits n)
  · rw [Value.padded, ofDigits_zeros_append, ofDigits_digits]

theorem isDate_of_literal_eq_ok {year month day : Nat} {t : Text}
    (h : literal (.date year month day) = .ok t) : IsDate year month day t := by
  refine ⟨Value.padded 4 year, Value.padded 2 month, Value.padded 2 day, ?_, denotes_padded 4 year,
    denotes_padded 2 month, denotes_padded 2 day⟩
  rw [← Option.some.inj (orTooLong_eq_ok h)]
  simp [List.intercalate_cons_cons]

theorem exists_quote_quotedBytes (data : List UInt8) : ∃ quote body,
    Text.quotedBytes data = 'b' :: quote :: body ++ [quote] ∧ (quote = '\'' ∨ quote = '"') := by
  refine ⟨_, _, rfl, ?_⟩
  rw [Text.quoteFor]
  split_ifs
  · exact Or.inr rfl
  · exact Or.inl rfl

/-- A literal of a scalar has the form of its kind. -/
theorem isWritten_of_literal_eq_ok {v : Value} (hskip : v.isSkip = false)
    (hcontainer : v.isContainer = false) {t : Text} (h : literal v = .ok t) : IsWritten v t := by
  cases v with
  | null => exact (Except.ok.inj h).symm
  | bool b => exact (Except.ok.inj h).symm
  | int n =>
    simp only [literal, Value.plain?, Value.display?] at h
    obtain ⟨-, rfl⟩ := intText?_eq_some_iff.mp (orTooLong_eq_ok h)
    exact ⟨rfl, isNumeral_intText n⟩
  | float x =>
    rw [← Option.some.inj (orTooLong_eq_ok h)]
    exact ⟨rfl, isNumeral_binary64⟩
  | decimal x =>
    rw [← Option.some.inj (orTooLong_eq_ok h)]
    exact ⟨rfl, isNumeral_decimal⟩
  | text s => exact ⟨escape s, (Except.ok.inj h).symm, isEscaped_escape s, unescape_escape s⟩
  | bytes data =>
    rw [← Option.some.inj (orTooLong_eq_ok h)]
    exact ⟨rfl, exists_quote_quotedBytes data⟩
  | date year month day => exact ⟨orTooLong_eq_ok h, isDate_of_literal_eq_ok h⟩
  | object form => exact (Option.some.inj (orTooLong_eq_ok h)).symm
  | skip => cases hskip
  | list | tuple | set | frozenSet | mapping | orderedMapping | foreignMapping => cases hcontainer

/-! ### Nothing -/

theorem cons_ne_null {c : Char} (hc : c ≠ 'N') (rest : Text) : c :: rest ≠ "NULL".toList := by
  intro h
  exact hc (List.cons.inj h).1

theorem digit_cons_ne_null {c : Char} (hc : c.isDigit = true) (rest : Text) :
    c :: rest ≠ "NULL".toList := by
  apply cons_ne_null
  rintro rfl
  cases hc

theorem isNumeral_ne_null {t : Text} (h : IsNumeral t) : t ≠ "NULL".toList := by
  obtain ⟨c, rest, rfl, hdigit | rfl | rfl⟩ := h.exists_head
  · exact digit_cons_ne_null hdigit rest
  · exact cons_ne_null (by decide) rest
  · exact cons_ne_null (by decide) rest

theorem isDate_ne_null {year month day : Nat} {t : Text} (h : IsDate year month day t) :
    t ≠ "NULL".toList := by
  obtain ⟨ys, ms, ds, rfl, ⟨hys, -⟩, -, -⟩ := h
  obtain ⟨c, rest, rfl, hc⟩ := exists_head_of_isDigits hys
  exact digit_cons_ne_null hc _

theorem binary64_ne_null (x : Binary64) : x.text ≠ "NULL".toList := by
  cases x with
  | nan => decide
  | infinite negative => cases negative <;> decide
  | finite negative x => exact isNumeral_ne_null (isNumeral_binary64 rfl)

theorem decimal_ne_null (x : Decimal) : x.text ≠ "NULL".toList := by
  cases x with
  | finite negative x => exact isNumeral_ne_null (isNumeral_decimal rfl)
  | infinite negative => cases negative <;> decide
  | nan negative signalling payload =>
    rw [Decimal.text]
    cases negative <;> cases signalling <;> simp

theorem eq_null_iff_of_isWritten {v : Value} (hobject : ∀ form, v ≠ .object form) {t : Text}
    (h : IsWritten v t) : t = "NULL".toList ↔ v = .null := by
  cases v with
  | null => exact iff_of_true h rfl
  | bool b =>
    rw [show t = _ from h]
    cases b <;> simp
  | int n => exact iff_of_false (isNumeral_ne_null h.2) (by simp)
  | float x =>
    rw [h.1]
    exact iff_of_false (binary64_ne_null x) (by simp)
  | decimal x =>
    rw [h.1]
    exact iff_of_false (decimal_ne_null x) (by simp)
  | text s =>
    obtain ⟨body, rfl, -⟩ := h
    exact iff_of_false (cons_ne_null (by decide) _) (by simp)
  | bytes data =>
    rw [h.1]
    exact iff_of_false (cons_ne_null (by decide) _) (by simp)
  | date year month day => exact iff_of_false (isDate_ne_null h.2) (by simp)
  | object form => exact absurd rfl (hobject form)
  | _ => exact h.elim

theorem isTaken_of_literal_eq_ok {v : Value} (hskip : v.isSkip = false)
    (hcontainer : v.isContainer = false) {t : Text} (h : literal v = .ok t) : IsTaken v t :=
  have hwritten := isWritten_of_literal_eq_ok hskip hcontainer h
  ⟨hskip, hcontainer, hwritten, fun hobject => eq_null_iff_of_isWritten hobject hwritten⟩

end QueryTemplate.Sql

namespace QueryTemplate.Tag

open Failure Sql

/-! ### Placeholders -/

/-- What stands in front of the value of an entry: its name, or nothing. -/
def label : EntryKey → Text
  | .key (.text s) => quoteName s ++ " = ".toList
  | _ => []

/-- What an entry becomes: its label and the literal of a scalar. -/
structure IsEntry (key : EntryKey) (item : Value) (part : Text) : Prop where
  isSkip : item.isSkip = false
  isContainer : item.isContainer = false
  named : ∀ v, key = .key v → (∃ n, v = .int n) ∨ ∃ s, v = .text s
  written : ∃ t, literal item = .ok t ∧ part = label key ++ t

theorem isEntry_of_renderEntry_eq_ok {key : EntryKey} {item : Value} {part : Text}
    (h : renderEntry key item = .ok part) : IsEntry key item part := by
  unfold renderEntry at h
  split_ifs at h with hrefused
  · obtain ⟨shownKey, -, h⟩ := bind_eq_ok_iff.mp h
    exact absurd h bind_throw_ne_ok
  · rw [Bool.or_eq_true, not_or, Bool.not_eq_true, Bool.not_eq_true] at hrefused
    obtain ⟨hskip, hcontainer⟩ := hrefused
    split at h
    · exact ⟨hskip, hcontainer, nofun, part, h, rfl⟩
    · refine ⟨hskip, hcontainer, ?_, part, h, rfl⟩
      rintro v ⟨⟩
      exact Or.inl ⟨_, rfl⟩
    · obtain ⟨t, ht, h⟩ := bind_eq_ok_iff.mp h
      refine ⟨hskip, hcontainer, ?_, t, ht, (Except.ok.inj h).symm⟩
      rintro v ⟨⟩
      exact Or.inr ⟨_, rfl⟩
    · exact absurd h bind_throw_ne_ok

/-- A text with one part for each entry of a value, its label and a text of the given form. -/
def IsRow (form : Value → Text → Prop) (v : Value) (text : Text) : Prop :=
  ∃ entries parts, associationEntries? v = some entries ∧ text = Value.commaSeparated parts ∧
    List.Forall₂ (fun entry part => ∃ t, part = label entry.1 ++ t ∧ form entry.2 t) entries parts

/-- Every object of another type that is an entry of a value reads in the given way. -/
def EachObject (form : Text → Prop) (v : Value) : Prop :=
  ∀ entries, associationEntries? v = some entries → ∀ entry ∈ entries, ∀ object,
    entry.2 = .object object → form object.plain

/-- The values that a placeholder takes by itself: nothing, truth values, integers, binary numbers
and texts. -/
def IsScalar : Value → Prop
  | .null | .bool _ | .int _ | .float _ | .text _ => True
  | _ => False

theorem isTaken_of_renderScalar_eq_ok {v : Value} {t : Text} (h : renderScalar v = .ok t) :
    IsScalar v ∧ IsTaken v t := by
  unfold renderScalar at h
  split at h
  case h_6 => cases h
  all_goals exact ⟨trivial, isTaken_of_literal_eq_ok rfl rfl h⟩

theorem IsEntry.exists_isTaken {key : EntryKey} {item : Value} {part : Text}
    (h : IsEntry key item part) : ∃ t, part = label key ++ t ∧ IsTaken item t := by
  obtain ⟨t, ht, hpart⟩ := h.written
  exact ⟨t, hpart, isTaken_of_literal_eq_ok h.isSkip h.isContainer ht⟩

theorem isRow_of_renderAssociation_eq_ok {v : Value} {text : Text}
    (h : renderAssociation v = .ok text) : IsRow IsTaken v text := by
  unfold renderAssociation at h
  split at h
  · rename_i entries hentries
    obtain ⟨parts, hparts, h⟩ := bind_eq_ok_iff.mp h
    refine ⟨entries, parts, hentries, (Except.ok.inj h).symm, ?_⟩
    apply (forall₂_of_mapM_eq_ok hparts).imp
    intro entry part hentry
    exact (isEntry_of_renderEntry_eq_ok hentry).exists_isTaken
  · cases h

/-- Every value that a placeholder takes, alone or in a list or a mapping, is written in the form of
its kind. -/
theorem render_isWritten :
    (∀ v t, Tag.scalar.render v = .ok t → IsScalar v ∧ IsTaken v t) ∧
      ∀ v text, Tag.association.render v = .ok text → IsRow IsTaken v text := by
  constructor
  · intro v t h
    rw [render] at h
    split_ifs at h
    exact isTaken_of_renderScalar_eq_ok h
  · intro v text h
    rw [render] at h
    split_ifs at h
    exact isRow_of_renderAssociation_eq_ok h

theorem render_isWritten_negative :
    IsTaken (.int (-7)) "-7".toList ∧
      IsRow IsTaken (.list [.text "a'b".toList, .date 2024 2 29])
        "'a\\'b', 2024-02-29".toList := by
  obtain ⟨hscalar, hassociation⟩ := render_isWritten
  exact ⟨(hscalar _ _ (by decide +kernel)).2, hassociation _ _ (by decide +kernel)⟩

/-- A list may hold a value that is of no kind with a form. -/
theorem exists_row_not_literal :
    ¬((∀ v t, Tag.scalar.render v = .ok t → IsLiteral v t) ∧
      ∀ v text, Tag.association.render v = .ok text → IsRow IsLiteral v text) := by
  rintro ⟨-, h⟩
  obtain ⟨entries, parts, hentries, -, hparts⟩ :=
    h (.list [.date 2024 2 29]) "2024-02-29".toList (by decide +kernel)
  rw [← Option.some.inj hentries] at hparts
  cases hparts with
  | cons hpart _ =>
    obtain ⟨t, -, hliteral⟩ := hpart
    exact hliteral

end QueryTemplate.Tag
