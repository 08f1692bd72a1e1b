import Mathlib.Tactic
import QueryTemplate.Sql.Literal

/-! The texts that escaping leads to. From left to right they consist of ordinary characters and of
escapes, and every such text is the escaped form of just one text. A reader that knows escapes and
doubled quotes finds the end of a quoted text where it was put. -/

namespace QueryTemplate.Sql

/-- A character that stands for itself between quotes. -/
def isOrdinary (c : Char) : Bool :=
  decide (c ∉ ['\\', '\x00', '\n', '\r', '\x1a', '\'', '"'])

/-- The character that a sign stands for after a backslash. -/
def meaning? : Char → Option Char
  | '\\' => some '\\'
  | '0' => some '\x00'
  | 'n' => some '\n'
  | 'r' => some '\r'
  | '\'' => some '\''
  | '"' => some '"'
  | 'Z' => some '\x1a'
  | _ => none

/-- A row of ordinary characters and escapes. -/
inductive IsEscaped : Text → Prop
  | nil : IsEscaped []
  | ordinary {c : Char} {s : Text} : isOrdinary c = true → IsEscaped s → IsEscaped (c :: s)
  | escape {sign c : Char} {s : Text} :
    meaning? sign = some c → IsEscaped s → IsEscaped ('\\' :: sign :: s)

/-- A text with each escape replaced by the character that it stands for. -/
def unescape : Text → Text
  | '\\' :: sign :: rest =>
    match meaning? sign with
    | some c => c :: unescape rest
    | none => '\\' :: unescape (sign :: rest)
  | c :: rest => c :: unescape rest
  | [] => []

/-! ### Signs and the characters they stand for -/

theorem escapeSign?_of_meaning? {sign c : Char} (h : meaning? sign = some c) :
    escapeSign? c = some sign := by
  unfold meaning? at h
  split at h <;> cases h <;> rfl

theorem meaning?_of_escapeSign? {sign c : Char} (h : escapeSign? c = some sign) :
    meaning? sign = some c := by
  unfold escapeSign? at h
  split at h <;> cases h <;> rfl

theorem isOrdinary_iff (c : Char) : isOrdinary c = true ↔ escapeSign? c = none := by
  unfold escapeSign?
  split <;> simp_all [isOrdinary]

theorem escapeChar_of_isOrdinary {c : Char} (h : isOrdinary c = true) : escapeChar c = [c] := by
  rw [escapeChar, (isOrdinary_iff c).mp h]

theorem escapeChar_of_meaning? {sign c : Char} (h : meaning? sign = some c) :
    escapeChar c = ['\\', sign] := by
  rw [escapeChar, escapeSign?_of_meaning? h]

/-- A character is ordinary, or it has a sign. -/
theorem isOrdinary_or_exists_meaning? (c : Char) :
    isOrdinary c = true ∨ ∃ sign, meaning? sign = some c := by
  cases h : escapeSign? c with
  | none => exact Or.inl ((isOrdinary_iff c).mpr h)
  | some sign => exact Or.inr ⟨sign, meaning?_of_escapeSign? h⟩

theorem ne_of_isOrdinary {c d : Char} (h : isOrdinary c = true) (hd : isOrdinary d = false) :
    c ≠ d :=
  ne_of_apply_ne isOrdinary (h.trans_ne (by rw [hd]; decide))

/-! ### There and back -/

theorem unescape_cons_of_isOrdinary {c : Char} (h : isOrdinary c = true) (s : Text) :
    unescape (c :: s) = c :: unescape s := by
  have hslash : c ≠ '\\' := ne_of_isOrdinary h rfl
  rw [unescape]
  exact fun sign rest hc _ => hslash hc

theorem unescape_cons_of_meaning? {sign c : Char} (h : meaning? sign = some c) (s : Text) :
    unescape ('\\' :: sign :: s) = c :: unescape s := by
  rw [unescape, h]

theorem isEscaped_escape (s : Text) : IsEscaped (escape s) := by
  induction s with
  | nil => exact .nil
  | cons c s ih =>
    rw [escape_cons]
    rcases isOrdinary_or_exists_meaning? c with hc | ⟨sign, hsign⟩
    · rw [escapeChar_of_isOrdinary hc]
      exact .ordinary hc ih
    · rw [escapeChar_of_meaning? hsign]
      exact .escape hsign ih

theorem unescape_escape (s : Text) : unescape (escape s) = s := by
  induction s with
  | nil => rfl
  | cons c s ih =>
    rw [escape_cons]
    rcases isOrdinary_or_exists_meaning? c with hc | ⟨sign, hsign⟩
    · rw [escapeChar_of_isOrdinary hc, List.singleton_append, unescape_cons_of_isOrdinary hc, ih]
    · rw [escapeChar_of_meaning? hsign, List.cons_append, List.singleton_append,
        unescape_cons_of_meaning? hsign, ih]

theorem escape_unescape {t : Text} (h : IsEscaped t) : escape (unescape t) = t := by
  induction h with
  | nil => rfl
  | ordinary hc _ ih =>
    rw [unescape_cons_of_isOrdinary hc, escape_cons, escapeChar_of_isOrdinary hc, ih]
    rfl
  | escape hsign _ ih =>
    rw [unescape_cons_of_meaning? hsign, escape_cons, escapeChar_of_meaning? hsign, ih]
    rfl

/-! ### Reading a quoted text -/

/-- What stands before the quote that closes a text, and what follows that quote. A backslash takes
the next character with it, and a doubled quote is a quote inside. -/
def untilQuote? : Text → Option (Text × Text)
  | '\\' :: c :: rest => (untilQuote? rest).map fun (s, tail) => ('\\' :: c :: s, tail)
  | '\'' :: '\'' :: rest => (untilQuote? rest).map fun (s, tail) => ('\'' :: s, tail)
  | '\'' :: rest => some ([], rest)
  | c :: rest => (untilQuote? rest).map fun (s, tail) => (c :: s, tail)
  | [] => none

/-- A quoted text at the beginning of a text: what it holds, and what follows it. -/
def readQuoted? : Text → Option (Text × Text)
  | '\'' :: rest => untilQuote? rest
  | _ => none

theorem untilQuote?_quote {w : Text} (hw : w.head? ≠ some '\'') :
    untilQuote? ('\'' :: w) = some ([], w) := by
  cases w with
  | nil => rfl
  | cons c w =>
    rw [untilQuote?]
    rintro rest hrest
    rw [hrest] at hw
    exact hw rfl

/-- An escaped text holds no quote that closes it. -/
theorem untilQuote?_of_isEscaped {t w : Text} (ht : IsEscaped t) (hw : w.head? ≠ some '\'') :
    untilQuote? (t ++ '\'' :: w) = some (t, w) := by
  induction ht with
  | nil => exact untilQuote?_quote hw
  | @ordinary c t hc _ ih =>
    have hslash : c ≠ '\\' := ne_of_isOrdinary hc rfl
    have hquote : c ≠ '\'' := ne_of_isOrdinary hc rfl
    rw [List.cons_append, untilQuote?, ih]
    · rfl
    · exact fun c rest hc _ => hslash hc
    · exact fun rest hc _ => hquote hc
    · exact hquote
  | escape _ _ ih =>
    rw [List.cons_append, List.cons_append, untilQuote?, ih]
    rfl

theorem readQuoted?_quoteText (s : Text) {w : Text} (hw : w.head? ≠ some '\'') :
    readQuoted? (quoteText s ++ w) = some (escape s, w) := by
  rw [quoteText, List.append_assoc, List.cons_append, readQuoted?]
  exact untilQuote?_of_isEscaped (isEscaped_escape s) hw

/-- Escaping is a bijection between all texts and the escaped ones, and unescaping is its inverse.
A reader of a text as a literal stops at its end, unless a quote follows. -/
theorem escape_bijective_and_literal_closed :
    (∀ s, IsEscaped (escape s) ∧ unescape (escape s) = s) ∧
      (∀ t, IsEscaped t → escape (unescape t) = t) ∧
      ∀ s w : Text, w.head? ≠ some '\'' →
        ∃ t, literal (.text s) = .ok t ∧ readQuoted? (t ++ w) = some (escape s, w) := by
  refine ⟨?_, ?_, ?_⟩
  · intro s
    exact ⟨isEscaped_escape s, unescape_escape s⟩
  · intro t ht
    exact escape_unescape ht
  · intro s w hw
    exact ⟨quoteText s, rfl, readQuoted?_quoteText s hw⟩

theorem escape_bijective_and_literal_closed_backslash :
    escape (unescape ['\\', '\'', '\\', '\\', 'n']) = ['\\', '\'', '\\', '\\', 'n'] ∧
      ∃ t, literal (.text "\\'".toList) = .ok t ∧
        readQuoted? (t ++ " OR '1'".toList) = some ("\\\\\\'".toList, " OR '1'".toList) := by
  obtain ⟨-, hback, hread⟩ := escape_bijective_and_literal_closed
  have hescaped : IsEscaped ['\\', '\'', '\\', '\\', 'n'] :=
    .escape rfl (.escape rfl (.ordinary rfl .nil))
  exact ⟨hback _ hescaped, hread "\\'".toList " OR '1'".toList (by decide)⟩

end QueryTemplate.Sql
