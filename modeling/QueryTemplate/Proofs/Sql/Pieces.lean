import QueryTemplate.Proofs.Number.Notation
import QueryTemplate.Proofs.Sql.Quotation

/-! Texts joined by commas, cut again. A reader that cuts at every comma and space outside of quotes
finds the parts of a row as they were put in: no literal and no name shows a comma outside of its
quotes, and each of them is left outside of quotes. -/

namespace QueryTemplate.Sql

open Number

/-- Put a text in front of the first of some pieces. -/
def prepend (s : Text) : List Text → List Text
  | [] => [s]
  | piece :: rest => (s ++ piece) :: rest

/-- The pieces of a text between the commas that stand outside of quotes with a space after them. -/
def cutFrom : Place → Text → List Text
  | .outside, ',' :: ' ' :: rest => [] :: cutFrom .outside rest
  | place, c :: rest => prepend [c] (cutFrom (place.step c) rest)
  | _, [] => [[]]

/-- The pieces of a whole text. The empty text has none. -/
def cut (t : Text) : List Text := if t.isEmpty then [] else cutFrom .outside t

/-- Whether a reader that comes to a text at this place meets no comma outside of quotes in it. -/
def Hides : Place → Text → Prop
  | _, [] => True
  | place, c :: t => (place = .outside → c ≠ ',') ∧ Hides (place.step c) t

/-- A text that a reader enters and leaves outside of quotes and does not cut. -/
structure IsPiece (t : Text) : Prop where
  neutral : Neutral t
  whole : cut t = [t]

/-! ### Cutting -/

theorem hides_append (place : Place) (s t : Text) :
    Hides place (s ++ t) ↔ Hides place s ∧ Hides (place.after s) t := by
  induction s generalizing place with
  | nil => simp [Hides]
  | cons c s ih => rw [List.cons_append, Hides, Hides, ih, and_assoc, Place.after_cons]

theorem prepend_nil {pieces : List Text} (h : pieces ≠ []) : prepend [] pieces = pieces := by
  cases pieces with
  | nil => exact absurd rfl h
  | cons piece rest => rfl

theorem prepend_prepend (s t : Text) (pieces : List Text) :
    prepend s (prepend t pieces) = prepend (s ++ t) pieces := by
  cases pieces with
  | nil => rfl
  | cons piece rest => simp only [prepend, List.append_assoc]

theorem prepend_ne_nil (s : Text) (pieces : List Text) : prepend s pieces ≠ [] := by
  cases pieces <;> exact List.cons_ne_nil _ _

theorem cutFrom_ne_nil (place : Place) (t : Text) : cutFrom place t ≠ [] := by
  fun_cases cutFrom place t with
  | case1 rest => exact List.cons_ne_nil _ _
  | case2 place c rest => exact prepend_ne_nil _ _
  | case3 place => exact List.cons_ne_nil _ _

theorem cutFrom_cons {place : Place} {c : Char} (h : place = .outside → c ≠ ',') (t : Text) :
    cutFrom place (c :: t) = prepend [c] (cutFrom (place.step c) t) := by
  rw [cutFrom]
  rintro rest hplace hc -
  exact h hplace hc

/-- A text that hides its commas goes to the first piece as a whole. -/
theorem cutFrom_append {place : Place} {s : Text} (h : Hides place s) (t : Text) :
    cutFrom place (s ++ t) = prepend s (cutFrom (place.after s) t) := by
  induction s generalizing place with
  | nil => exact (prepend_nil (cutFrom_ne_nil place t)).symm
  | cons c s ih =>
    rw [List.cons_append, cutFrom_cons h.1, ih h.2, prepend_prepend, Place.after_cons]
    rfl

theorem isPiece_of_hides {t : Text} (hne : t ≠ []) (hneutral : Neutral t)
    (hhides : Hides .outside t) : IsPiece t := by
  have hcut := cutFrom_append hhides []
  rw [List.append_nil, hneutral, cutFrom, prepend, List.append_nil] at hcut
  rw [← List.isEmpty_eq_false_iff] at hne
  exact ⟨hneutral, by rw [cut, hne, if_neg Bool.false_ne_true, hcut]⟩

/-- Of a text that is not cut, neither is what follows its first character, and the two do not make
a comma with a space. -/
theorem whole_of_whole_cons {place : Place} {c : Char} {s : Text}
    (h : cutFrom place (c :: s) = [c :: s]) :
    cutFrom (place.step c) s = [s] ∧ ¬(place = .outside ∧ c = ',' ∧ s.head? = some ' ') := by
  by_cases hseam : place = .outside ∧ c = ',' ∧ s.head? = some ' '
  · obtain ⟨rfl, rfl, hspace⟩ := hseam
    obtain ⟨rest, rfl⟩ := List.head?_eq_some_iff.mp hspace
    rw [cutFrom] at h
    simp at h
  · refine ⟨?_, hseam⟩
    have hcut : cutFrom place (c :: s) = prepend [c] (cutFrom (place.step c) s) := by
      rw [cutFrom]
      rintro rest hplace hc rfl
      exact hseam ⟨hplace, hc, rfl⟩
    rw [hcut] at h
    cases hpieces : cutFrom (place.step c) s with
    | nil => exact absurd hpieces (cutFrom_ne_nil _ s)
    | cons piece rest =>
      rw [hpieces, prepend, List.cons.injEq, List.singleton_append, List.cons.injEq] at h
      rw [h.1.2, h.2]

/-- A text that is not cut stays whole in front of any text that does not start with a space. -/
theorem cutFrom_append_of_whole {place : Place} {s t : Text} (h : cutFrom place s = [s])
    (ht : t.head? ≠ some ' ') :
    cutFrom place (s ++ t) = prepend s (cutFrom (place.after s) t) := by
  induction s generalizing place with
  | nil => exact (prepend_nil (cutFrom_ne_nil place t)).symm
  | cons c s ih =>
    obtain ⟨hrest, hseam⟩ := whole_of_whole_cons h
    have hcut : cutFrom place (c :: (s ++ t)) = prepend [c] (cutFrom (place.step c) (s ++ t)) := by
      rw [cutFrom]
      rintro rest hplace hc hspace
      cases s with
      | nil =>
        obtain rfl : t = ' ' :: rest := hspace
        exact ht rfl
      | cons d s =>
        obtain ⟨rfl, -⟩ := List.cons.inj hspace
        exact hseam ⟨hplace, hc, rfl⟩
    rw [List.cons_append, hcut, ih hrest, prepend_prepend, Place.after_cons]
    rfl

theorem IsPiece.ne_nil {t : Text} (h : IsPiece t) : t ≠ [] := by
  rintro rfl
  cases h.whole

theorem IsPiece.cutFrom_outside {t : Text} (h : IsPiece t) : cutFrom .outside t = [t] := by
  have hwhole := h.whole
  rwa [cut, List.isEmpty_eq_false_iff.mpr h.ne_nil, if_neg Bool.false_ne_true] at hwhole

theorem IsPiece.cutFrom_append {s t : Text} (h : IsPiece s) (ht : t.head? ≠ some ' ') :
    cutFrom .outside (s ++ t) = prepend s (cutFrom .outside t) := by
  rw [cutFrom_append_of_whole h.cutFrom_outside ht, h.neutral]

/-- A text without a comma in front of a piece makes a piece with it. -/
theorem IsPiece.append_of_hides {s t : Text} (ht : IsPiece t) (hneutral : Neutral s)
    (hhides : Hides .outside s) : IsPiece (s ++ t) := by
  refine ⟨neutral_append hneutral ht.neutral, ?_⟩
  have hcut := Sql.cutFrom_append hhides t
  rw [hneutral, ht.cutFrom_outside, prepend] at hcut
  rw [cut, List.isEmpty_eq_false_iff.mpr (by simp [ht.ne_nil]), if_neg Bool.false_ne_true, hcut]

theorem cutFrom_commaSeparated {parts : List Text} (hne : parts ≠ [])
    (h : ∀ part ∈ parts, IsPiece part) :
    cutFrom .outside (Value.commaSeparated parts) = parts := by
  induction parts with
  | nil => exact absurd rfl hne
  | cons part parts ih =>
    rw [List.forall_mem_cons] at h
    cases parts with
    | nil =>
      have hcut := h.1.cutFrom_append (t := []) (by simp)
      rw [List.append_nil] at hcut
      rw [Value.commaSeparated, List.intercalate_singleton, hcut, cutFrom, prepend, List.append_nil]
    | cons next parts =>
      have hrest := ih (List.cons_ne_nil _ _) h.2
      have hcut := h.1.cutFrom_append (t := ',' :: ' ' :: Value.commaSeparated (next :: parts))
        (by simp)
      rw [cutFrom, hrest, prepend, List.append_nil] at hcut
      rw [Value.commaSeparated, List.intercalate_cons_cons, List.append_assoc]
      exact hcut

/-- Parts that are joined are found again, one by one. -/
theorem cut_commaSeparated {parts : List Text} (h : ∀ part ∈ parts, IsPiece part) :
    cut (Value.commaSeparated parts) = parts := by
  cases parts with
  | nil => rfl
  | cons part parts =>
    have hne : (Value.commaSeparated (part :: parts)).isEmpty = false := by
      have hpart := (h part List.mem_cons_self).ne_nil
      cases parts with
      | nil => simpa [Value.commaSeparated] using hpart
      | cons next parts => simp [Value.commaSeparated, List.intercalate_cons_cons]
    rw [cut, hne]
    exact cutFrom_commaSeparated (List.cons_ne_nil _ _) h

example : cut "`a, b` = 'x, \\'y', -1.5".toList =
    ["`a, b` = 'x, \\'y'".toList, "-1.5".toList] := rfl

/-! ### Texts without commas -/

theorem hides_of_not_mem {t : Text} (h : ',' ∉ t) (place : Place) : Hides place t := by
  induction t generalizing place with
  | nil => trivial
  | cons c t ih =>
    rw [List.mem_cons, not_or] at h
    exact ⟨fun _ hc => h.1 hc.symm, ih h.2 _⟩

theorem isPiece_of_plain {t : Text} (hne : t ≠ []) (hplain : Plain t) (hcomma : ',' ∉ t) :
    IsPiece t := isPiece_of_hides hne hplain.neutral (hides_of_not_mem hcomma .outside)

theorem comma_not_mem_of_forall_isDigit {t : Text} (h : ∀ c ∈ t, c.isDigit = true) : ',' ∉ t := by
  intro hmem
  have hdigit := h ',' hmem
  revert hdigit
  decide

theorem comma_not_mem_of_isDigits {t : Text} (h : Numeral.isDigits t = true) : ',' ∉ t :=
  comma_not_mem_of_forall_isDigit (isDigits_iff.mp h).2

theorem comma_not_mem_of_isSign {t : Text} (h : IsSign t) : ',' ∉ t := by
  rcases h with rfl | rfl | rfl <;> decide

theorem comma_not_mem_of_isNumeral {t : Text} (h : IsNumeral t) : ',' ∉ t := by
  obtain ⟨sign, number, rfl, hsign, whole, fraction, exponent, rfl, hwhole, hfraction,
    hexponent⟩ := h
  have hfractionComma : ',' ∉ fraction := by
    rcases hfraction with rfl | ⟨ds, rfl, hds⟩
    · exact List.not_mem_nil
    · simp [comma_not_mem_of_isDigits hds]
  have hexponentComma : ',' ∉ exponent := by
    rcases hexponent with rfl | ⟨mark, sign, ds, rfl, hmark, hsign, hds⟩
    · exact List.not_mem_nil
    · rcases hmark with rfl | rfl <;>
        simp [comma_not_mem_of_isSign hsign, comma_not_mem_of_isDigits hds]
  simp [comma_not_mem_of_isSign hsign, comma_not_mem_of_isDigits hwhole, hfractionComma,
    hexponentComma]

theorem comma_not_mem_binary64 (x : Binary64) : ',' ∉ x.text := by
  cases x with
  | nan => decide
  | infinite negative => cases negative <;> decide
  | finite negative x => exact comma_not_mem_of_isNumeral (isNumeral_binary64 rfl)

theorem comma_not_mem_decimal (x : Decimal) : ',' ∉ x.text := by
  cases x with
  | finite negative x => exact comma_not_mem_of_isNumeral (isNumeral_decimal rfl)
  | infinite negative => cases negative <;> decide
  | nan negative signalling payload =>
    have hpayload := comma_not_mem_of_isDigits (isDigits_digits payload)
    rw [Decimal.text]
    cases negative <;> cases signalling <;> split_ifs <;> simp [hpayload]

theorem comma_not_mem_padded (width n : Nat) : ',' ∉ Value.padded width n :=
  comma_not_mem_of_isDigits (isDigits_zeros_append _ (isDigits_digits n))

/-! ### Quoted texts -/

/-- Characters whose texts hide their commas and leave the reader where it was can stand in a
row. -/
theorem hides_flatMap {α : Type} {place : Place} {f : α → Text} {l : List α}
    (h : ∀ a ∈ l, place.after (f a) = place ∧ Hides place (f a)) : Hides place (l.flatMap f) := by
  induction l with
  | nil => trivial
  | cons a l ih =>
    rw [List.forall_mem_cons] at h
    rw [List.flatMap_cons, hides_append, h.1.1]
    exact ⟨h.1.2, ih h.2⟩

theorem hides_singleton {place : Place} (h : place ≠ .outside) (c : Char) : Hides place [c] :=
  ⟨fun houtside => absurd houtside h, trivial⟩

/-- Between quotes a plain text is never outside of them. -/
theorem hides_of_plain {place : Place} (hplace : place ≠ .outside)
    (hsettled : place.isSettled = true) {t : Text} (h : Plain t) : Hides place t := by
  induction t with
  | nil => trivial
  | cons c t ih =>
    rw [plain_cons_iff] at h
    rw [Hides, Place.step_of_not_isSpecial hsettled h.1]
    exact ⟨fun houtside => absurd houtside hplace, ih h.2⟩

theorem hides_escapeChar (c : Char) : Hides (.single false) (escapeChar c) := by
  rw [escapeChar]
  split
  · simp [Hides, Place.step]
  · exact hides_singleton (by simp) c

theorem isPiece_quoteText (s : Text) : IsPiece (quoteText s) := by
  refine isPiece_of_hides (List.cons_ne_nil _ _) (neutral_quoteText s) ?_
  have hinside : Hides (.single false) (escape s) :=
    hides_flatMap fun c _ => ⟨after_escapeChar c, hides_escapeChar c⟩
  have hafter : (Place.single false).after (escape s) = .single false :=
    Place.after_flatMap fun c _ => after_escapeChar c
  rw [quoteText, hides_append, Hides]
  refine ⟨⟨by decide, hinside⟩, ?_⟩
  show Hides ((Place.single false).after (escape s)) ['\'']
  rw [hafter]
  exact hides_singleton (by simp) '\''

theorem hides_doubleBackquote (c : Char) : Hides .back (doubleBackquote c) := by
  rw [doubleBackquote]
  split_ifs with hc
  · simp [Hides, Place.step]
  · exact hides_singleton (by simp) c

theorem hides_quoteName (name : Text) : Hides .outside (quoteName name) := by
  have hinside : Hides .back ((escape name).flatMap doubleBackquote) :=
    hides_flatMap fun c _ => ⟨after_doubleBackquote c, hides_doubleBackquote c⟩
  have hafter : Place.back.after ((escape name).flatMap doubleBackquote) = .back :=
    Place.after_flatMap fun c _ => after_doubleBackquote c
  rw [quoteName, hides_append, Hides]
  refine ⟨⟨by decide, hinside⟩, ?_⟩
  show Hides (Place.back.after ((escape name).flatMap doubleBackquote)) ['`']
  rw [hafter]
  exact hides_singleton (by simp) '`'

section Enclosed

variable {quote : Char} {place : Place} (h : Encloses quote place)

include h

theorem ne_outside_of_encloses : place ≠ .outside := by
  rcases h with ⟨-, rfl⟩ | ⟨-, rfl⟩ <;> simp

theorem hides_escaped (c : Char) : Hides place ['\\', c] := by
  rcases h with ⟨-, rfl⟩ | ⟨-, rfl⟩ <;> simp [Hides, Place.step]

theorem hides_codeEscape (c : Char) : Hides place (Text.codeEscape c) := by
  have hsettled : place.isSettled = true := by
    rcases h with ⟨-, rfl⟩ | ⟨-, rfl⟩ <;> rfl
  have hhex (mark : Char) (width n : Nat) : Hides place ('\\' :: mark :: Text.hex width n) := by
    have hafter := after_escaped h mark
    have hboth := (hides_append place ['\\', mark] (Text.hex width n)).mpr
    rw [hafter] at hboth
    exact hboth ⟨hides_escaped h mark,
      hides_of_plain (ne_outside_of_encloses h) hsettled (plain_hex width n)⟩
  rw [Text.codeEscape]
  split_ifs <;> exact hhex _ _ _

theorem hides_shownChar (c : Char) : Hides place (Text.shownChar quote c) := by
  rw [Text.shownChar]
  split_ifs
  · exact hides_escaped h c
  · exact hides_escaped h 'n'
  · exact hides_escaped h 'r'
  · exact hides_escaped h 't'
  · exact hides_singleton (ne_outside_of_encloses h) c
  · exact hides_codeEscape h c

end Enclosed

theorem isPiece_quotedBytes (data : List UInt8) : IsPiece (Text.quotedBytes data) := by
  refine isPiece_of_hides (List.cons_ne_nil _ _) (neutral_quotedBytes data) ?_
  set s : Text := data.map fun byte => Char.ofNat byte.toNat with hs
  have henclosed := encloses_quoteFor s
  set quote := Text.quoteFor s with hquote
  set place := Place.outside.step quote
  have hcomma : quote ≠ ',' := by
    rcases henclosed with ⟨h, -⟩ | ⟨h, -⟩ <;> rw [h] <;> decide
  -- Each byte is shown as a character of ASCII or by its code.
  have hshown (c : Char) :
      place.after (if c.toNat < 0x80 then Text.shownChar quote c else Text.codeEscape c) = place ∧
        Hides place (if c.toNat < 0x80 then Text.shownChar quote c else Text.codeEscape c) := by
    split_ifs
    · exact ⟨after_shownChar henclosed c, hides_shownChar henclosed c⟩
    · exact ⟨after_codeEscape henclosed c, hides_codeEscape henclosed c⟩
  have hlast : Hides place [quote] := hides_singleton (ne_outside_of_encloses henclosed) quote
  rw [Text.quotedBytes, ← hs, hides_append, ← hquote]
  refine ⟨⟨by simp, fun _ => hcomma, hides_flatMap fun c _ => hshown c⟩, ?_⟩
  simp only [Place.after_cons]
  show Hides (place.after (s.flatMap _)) [quote]
  rw [Place.after_flatMap fun c _ => (hshown c).1]
  exact hlast

/-! ### Literals -/

theorem isPiece_of_isNumeral {t : Text} (h : IsNumeral t) (hplain : Plain t) : IsPiece t := by
  obtain ⟨c, rest, heq, -⟩ := h.exists_head
  refine isPiece_of_plain ?_ hplain (comma_not_mem_of_isNumeral h)
  rw [heq]
  exact List.cons_ne_nil c rest

theorem isPiece_binary64 (x : Binary64) : IsPiece x.text := by
  refine isPiece_of_plain ?_ (plain_binary64 x) (comma_not_mem_binary64 x)
  cases x with
  | nan => decide
  | infinite negative => cases negative <;> decide
  | finite negative x =>
    obtain ⟨c, rest, heq, -⟩ := (isNumeral_binary64 (x := .finite negative x) rfl).exists_head
    rw [heq]
    exact List.cons_ne_nil c rest

theorem isPiece_decimal (x : Decimal) : IsPiece x.text := by
  refine isPiece_of_plain ?_ (plain_decimal x) (comma_not_mem_decimal x)
  cases x with
  | infinite negative => cases negative <;> decide
  | nan negative signalling payload =>
    rw [Decimal.text]
    cases negative <;> cases signalling <;> simp
  | finite negative x =>
    obtain ⟨c, rest, heq, -⟩ := (isNumeral_decimal (x := .finite negative x) rfl).exists_head
    rw [heq]
    exact List.cons_ne_nil c rest

theorem isPiece_date (year month day : Nat) : IsPiece (['-'].intercalate
    [Value.padded 4 year, Value.padded 2 month, Value.padded 2 day]) := by
  refine isPiece_of_plain ?_ (plain_date year month day) ?_
  · simp [List.intercalate_cons_cons]
  · simp [List.intercalate_cons_cons, comma_not_mem_padded]

/-- A literal of a scalar is not cut, and neither is one of an object whose text is not. -/
theorem isPiece_literal {v : Value} (hv : v.isContainer = false)
    (hobject : ∀ form, v = .object form → IsPiece form.plain) {t : Text}
    (h : literal v = .ok t) : IsPiece t := by
  cases v with
  | null =>
    rw [← Except.ok.inj h]
    exact isPiece_of_plain (by decide) (by decide) (by decide)
  | bool b =>
    rw [← Except.ok.inj h]
    cases b <;> exact isPiece_of_plain (by decide) (by decide) (by decide)
  | int n =>
    simp only [literal, Value.plain?, Value.display?] at h
    obtain ⟨-, rfl⟩ := intText?_eq_some_iff.mp (orTooLong_eq_ok h)
    exact isPiece_of_isNumeral (isNumeral_intText n) (plain_intText n)
  | float x =>
    rw [← Option.some.inj (orTooLong_eq_ok h)]
    exact isPiece_binary64 x
  | decimal x =>
    rw [← Option.some.inj (orTooLong_eq_ok h)]
    exact isPiece_decimal x
  | text s =>
    rw [← Except.ok.inj h]
    exact isPiece_quoteText s
  | bytes data =>
    rw [← Option.some.inj (orTooLong_eq_ok h)]
    exact isPiece_quotedBytes data
  | date year month day =>
    rw [← Option.some.inj (orTooLong_eq_ok h)]
    exact isPiece_date year month day
  | skip =>
    rw [← Option.some.inj (orTooLong_eq_ok h)]
    exact isPiece_of_plain (by decide) (by decide) (by decide)
  | object form =>
    rw [← Option.some.inj (orTooLong_eq_ok h)]
    exact hobject form rfl
  | list | tuple | set | frozenSet | mapping | orderedMapping | foreignMapping => cases hv

end QueryTemplate.Sql
