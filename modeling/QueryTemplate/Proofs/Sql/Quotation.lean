import QueryTemplate.Proofs.Failure.Bind
import QueryTemplate.Proofs.Sql.Plain
import QueryTemplate.Template.Render

/-! Where a reader of SQL stands with respect to quotes. Whatever a placeholder becomes, a reader
that is outside of quotes before it is outside after it: a text is escaped, a name has its
back-quotes doubled, bytes come with their own quotes and escapes, and numbers and dates have
nothing to escape. -/

namespace QueryTemplate.Sql

open Number Failure

/-- The quotes that a reader stands in. Between single and double quotes a backslash takes the next
character with it; the flag says that one has just been read. -/
inductive Place where
  | outside
  | single (escaped : Bool)
  | double (escaped : Bool)
  | back
  deriving DecidableEq, Repr

namespace Place

/-- Where the reader stands after one more character. -/
def step : Place → Char → Place
  | .outside, c =>
    if c = '\'' then .single false
    else if c = '"' then .double false
    else if c = '`' then .back
    else .outside
  | .single true, _ => .single false
  | .single false, c =>
    if c = '\\' then .single true else if c = '\'' then .outside else .single false
  | .double true, _ => .double false
  | .double false, c =>
    if c = '\\' then .double true else if c = '"' then .outside else .double false
  | .back, c => if c = '`' then .outside else .back

/-- Where the reader stands after a text. -/
def after (place : Place) (t : Text) : Place := t.foldl step place

/-- Whether the next character is read on its own. -/
def isSettled : Place → Bool
  | .single escaped | .double escaped => !escaped
  | _ => true

@[simp]
theorem after_nil (place : Place) : place.after [] = place := rfl

@[simp]
theorem after_cons (place : Place) (c : Char) (t : Text) :
    place.after (c :: t) = (place.step c).after t := rfl

@[simp]
theorem after_append (place : Place) (s t : Text) :
    place.after (s ++ t) = (place.after s).after t := List.foldl_append

theorem step_of_not_isSpecial {place : Place} (hplace : place.isSettled = true) {c : Char}
    (h : isSpecial c = false) : place.step c = place := by
  simp only [isSpecial, Bool.or_eq_false_iff, decide_eq_false_iff_not] at h
  obtain ⟨⟨⟨hsingle, hdouble⟩, hback⟩, hslash⟩ := h
  cases place with
  | outside => simp [step, hsingle, hdouble, hback]
  | single escaped =>
    cases escaped with
    | true => cases hplace
    | false => simp [step, hsingle, hslash]
  | double escaped =>
    cases escaped with
    | true => cases hplace
    | false => simp [step, hdouble, hslash]
  | back => simp [step, hback]

/-- A text without quotes and backslashes leaves the reader where it is. -/
theorem after_of_plain {place : Place} (hplace : place.isSettled = true) {t : Text} (h : Plain t) :
    place.after t = place := by
  induction t with
  | nil => rfl
  | cons c t ih =>
    rw [plain_cons_iff] at h
    rw [after_cons, step_of_not_isSpecial hplace h.1, ih h.2]

/-- A text leaves the reader where it is if the text of every character does. -/
theorem after_flatMap {α : Type} {place : Place} {f : α → Text} {l : List α}
    (h : ∀ a ∈ l, place.after (f a) = place) : place.after (l.flatMap f) = place := by
  induction l with
  | nil => rfl
  | cons a l ih =>
    rw [List.forall_mem_cons] at h
    rw [List.flatMap_cons, after_append, h.1, ih h.2]

end Place

/-- A text that a reader enters and leaves outside of quotes. -/
def Neutral (t : Text) : Prop := Place.outside.after t = .outside

theorem Plain.neutral {t : Text} (h : Plain t) : Neutral t := Place.after_of_plain rfl h

theorem neutral_append {s t : Text} (hs : Neutral s) (ht : Neutral t) : Neutral (s ++ t) := by
  rw [Neutral, Place.after_append, hs, ht]

theorem neutral_commaSeparated {parts : List Text} (h : ∀ t ∈ parts, Neutral t) :
    Neutral (Value.commaSeparated parts) := by
  induction parts with
  | nil => rfl
  | cons t parts ih =>
    rw [List.forall_mem_cons] at h
    cases parts with
    | nil =>
      rw [Value.commaSeparated, List.intercalate_singleton]
      exact h.1
    | cons u parts =>
      have hrest := ih h.2
      rw [Value.commaSeparated, List.intercalate_cons_cons]
      exact neutral_append (neutral_append h.1 rfl) hrest

/-! ### Quoted texts and names -/

theorem after_escapeChar (c : Char) :
    (Place.single false).after (escapeChar c) = .single false := by
  rw [escapeChar]
  cases h : escapeSign? c with
  | some sign => rfl
  | none =>
    have hslash : c ≠ '\\' := by
      rintro rfl
      cases h
    have hquote : c ≠ '\'' := by
      rintro rfl
      cases h
    simp [Place.step, hslash, hquote]

/-- Nothing inside an escaped text closes its quote. -/
theorem neutral_quoteText (s : Text) : Neutral (quoteText s) := by
  have hinside : (Place.single false).after (escape s) = .single false :=
    Place.after_flatMap fun c _ => after_escapeChar c
  rw [Neutral, quoteText, Place.after_append, Place.after_cons]
  show ((Place.single false).after (escape s)).after ['\''] = .outside
  rw [hinside]
  rfl

theorem after_doubleBackquote (c : Char) : Place.back.after (doubleBackquote c) = .back := by
  rw [doubleBackquote]
  split_ifs with h
  · rfl
  · simp [Place.step, h]

/-- A back-quote in a name comes twice and closes nothing for good. -/
theorem neutral_quoteName (name : Text) : Neutral (quoteName name) := by
  have hinside : Place.back.after ((escape name).flatMap doubleBackquote) = .back :=
    Place.after_flatMap fun c _ => after_doubleBackquote c
  rw [Neutral, quoteName, Place.after_append, Place.after_cons]
  show (Place.back.after ((escape name).flatMap doubleBackquote)).after ['`'] = .outside
  rw [hinside]
  rfl

/-! ### Bytes -/

/-- A place between quotes that a backslash escapes, with the quote that closes it. -/
def Encloses (quote : Char) (place : Place) : Prop :=
  quote = '\'' ∧ place = .single false ∨ quote = '"' ∧ place = .double false

section Enclosed

variable {quote : Char} {place : Place} (h : Encloses quote place)

include h

theorem after_escaped (c : Char) : place.after ['\\', c] = place := by
  rcases h with ⟨-, rfl⟩ | ⟨-, rfl⟩ <;> rfl

theorem step_enclosed {c : Char} (hquote : c ≠ quote) (hslash : c ≠ '\\') :
    place.step c = place := by
  rcases h with ⟨rfl, rfl⟩ | ⟨rfl, rfl⟩ <;> simp [Place.step, hquote, hslash]

theorem after_codeEscape (c : Char) : place.after (Text.codeEscape c) = place := by
  have hsettled : place.isSettled = true := by
    rcases h with ⟨-, rfl⟩ | ⟨-, rfl⟩ <;> rfl
  have hhex : ∀ mark width n, place.after ('\\' :: mark :: Text.hex width n) = place := by
    intro mark width n
    have hescape := after_escaped h mark
    show (place.after ['\\', mark]).after (Text.hex width n) = place
    rw [hescape, Place.after_of_plain hsettled (plain_hex width n)]
  rw [Text.codeEscape]
  split_ifs <;> exact hhex _ _ _

theorem after_shownChar (c : Char) : place.after (Text.shownChar quote c) = place := by
  rw [Text.shownChar]
  split_ifs with hself
  · exact after_escaped h c
  · exact after_escaped h 'n'
  · exact after_escaped h 'r'
  · exact after_escaped h 't'
  · rw [Bool.or_eq_true, decide_eq_true_iff, decide_eq_true_iff, not_or] at hself
    exact step_enclosed h hself.1 hself.2
  · exact after_codeEscape h c

end Enclosed

theorem encloses_quoteFor (s : Text) :
    Encloses (Text.quoteFor s) (Place.outside.step (Text.quoteFor s)) := by
  rw [Text.quoteFor]
  split_ifs
  · exact Or.inr ⟨rfl, rfl⟩
  · exact Or.inl ⟨rfl, rfl⟩

/-- Bytes are shown between quotes of their own, and none of them closes these. -/
theorem neutral_quotedBytes (data : List UInt8) : Neutral (Text.quotedBytes data) := by
  set s : Text := data.map fun byte => Char.ofNat byte.toNat with hs
  have henclosed := encloses_quoteFor s
  have hclose : (Place.outside.step (Text.quoteFor s)).step (Text.quoteFor s) = .outside := by
    rcases henclosed with ⟨hquote, hplace⟩ | ⟨hquote, hplace⟩ <;> rw [hplace, hquote] <;> rfl
  rw [Neutral, Text.quotedBytes, ← hs]
  simp only [Place.after_append, Place.after_cons, Place.after_nil]
  show ((Place.outside.step (Text.quoteFor s)).after (s.flatMap _)).step _ = _
  rw [Place.after_flatMap, hclose]
  intro c _
  split_ifs
  · exact after_shownChar henclosed c
  · exact after_codeEscape henclosed c

/-! ### Literals and placeholders -/

theorem plain_date (year month day : Nat) : Plain (['-'].intercalate
    [Value.padded 4 year, Value.padded 2 month, Value.padded 2 day]) := by
  simp [plain_padded, isSpecial]

theorem orTooLong_eq_ok {t : Option Text} {s : Text} (h : orTooLong t = .ok s) : t = some s := by
  cases t with
  | none => cases h
  | some t => rw [Except.ok.inj h]

theorem plain_of_intText?_eq_some {n : Int} {t : Text} (h : intText? n = some t) : Plain t := by
  rw [← (intText?_eq_some_iff.mp h).2]
  exact plain_intText n

/-- A literal of a scalar is neutral, and so is one of an object whose text is. -/
theorem neutral_literal {v : Value} (hv : v.isContainer = false)
    (hobject : ∀ form, v = .object form → Neutral form.plain) {t : Text}
    (h : literal v = .ok t) : Neutral t := by
  cases v with
  | null =>
    rw [← Except.ok.inj h]
    rfl
  | bool b =>
    rw [← Except.ok.inj h]
    cases b <;> rfl
  | int n =>
    simp only [literal, Value.plain?, Value.display?] at h
    exact (plain_of_intText?_eq_some (orTooLong_eq_ok h)).neutral
  | float x =>
    rw [← Option.some.inj (orTooLong_eq_ok h)]
    exact (plain_binary64 x).neutral
  | decimal x =>
    rw [← Option.some.inj (orTooLong_eq_ok h)]
    exact (plain_decimal x).neutral
  | text s =>
    rw [← Except.ok.inj h]
    exact neutral_quoteText s
  | bytes data =>
    rw [← Option.some.inj (orTooLong_eq_ok h)]
    exact neutral_quotedBytes data
  | date year month day =>
    rw [← Option.some.inj (orTooLong_eq_ok h)]
    exact (plain_date year month day).neutral
  | skip =>
    rw [← Option.some.inj (orTooLong_eq_ok h)]
    rfl
  | object form =>
    rw [← Option.some.inj (orTooLong_eq_ok h)]
    exact hobject form rfl
  | list | tuple | set | frozenSet | mapping | orderedMapping | foreignMapping => cases hv

end QueryTemplate.Sql
