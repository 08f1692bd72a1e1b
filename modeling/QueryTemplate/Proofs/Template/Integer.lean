import QueryTemplate.Proofs.Failure.Bind
import QueryTemplate.Proofs.Number.Short
import QueryTemplate.Proofs.Number.Spelling
import QueryTemplate.Template.Render

/-! What the placeholder for integers prints. A number that is a value by itself loses its fraction
and nothing else, and so does the text of an integer. The text of any other numeral is rounded to a
binary number first. That shows if a whole number lies between the numeral and the number it is
rounded to, which takes more digits than 53 bits have. -/

namespace QueryTemplate

open Number Failure

/-- The number that a value denotes. -/
inductive Value.Denotes : Value → ℚ → Prop
  | bool (b : Bool) : Denotes (.bool b) (if b then 1 else 0)
  | int (n : ℤ) : Denotes (.int n) n
  | float (negative : Bool) (x : Number.Dyadic) :
      Denotes (.float (.finite negative x)) (signed negative x.value)
  | decimal (negative : Bool) (x : Scientific) :
      Denotes (.decimal (.finite negative x)) (signed negative x.value)
  | text (p : Spelling) : Denotes (.text p.text) p.value

/-- Whether a value is the text of a numeral that is no integer within the digit limit, and a whole
number lies between its number and the binary number nearest to it, or at the greater of the two. -/
def Value.RoundsPast (v : Value) (q : ℚ) : Prop :=
  (∃ p : Spelling, v = .text p.text ∧ ¬p.IsInteger) ∧
    ∃ (x : Number.Dyadic) (n : ℕ), x.IsNearest |q| ∧ ¬((n : ℚ) ≤ x.value ↔ (n : ℚ) ≤ |q|)

/-- The text that is printed for a number: the integer left of its fraction, unless the number
rounds past another one. A number of few digits does not. -/
structure IsPrinted (v : Value) (q : ℚ) (t : Text) : Prop where
  exact_iff : t = intText (truncated q) ↔ ¬v.RoundsPast q
  rounded : ∀ p : Spelling, v = .text p.text → ¬p.IsInteger →
    ∃ x : Number.Dyadic, x.IsNearest p.magnitude.value ∧
      t = intText (truncated (signed p.negative x.value))
  short : ∀ m : Scientific, m.value = |q| → m.IsShort → t = intText (truncated q)

namespace Tag

/-- What is printed is `NULL`, or the integer that the value converts to, or the one that its text
is read as by way of a binary number. -/
theorem exists_of_renderInteger_eq_ok {v : Value} {t : Text} (h : renderInteger v = .ok t) :
    v = .null ∧ t = "NULL".toList ∨ ∃ n, isWritable n = true ∧ t = intText n ∧
      (v.toInteger? = some n ∨
        v.toInteger?.bind intText? = none ∧ v.toIntegerByFloat? = some n) := by
  unfold renderInteger at h
  split at h
  · exact Or.inl ⟨rfl, (Except.ok.inj h).symm⟩
  · right
    split at h
    · rename_i s hs
      obtain ⟨n, hfirst, hn⟩ := Option.bind_eq_some_iff.mp hs
      obtain ⟨hwritable, rfl⟩ := intText?_eq_some_iff.mp hn
      exact ⟨n, hwritable, (Except.ok.inj h).symm, Or.inl hfirst⟩
    · rename_i hnone
      split at h
      · rename_i s hs
        obtain ⟨n, hsecond, hn⟩ := Option.bind_eq_some_iff.mp hs
        obtain ⟨hwritable, rfl⟩ := intText?_eq_some_iff.mp hn
        exact ⟨n, hwritable, (Except.ok.inj h).symm, Or.inr ⟨hnone, hsecond⟩⟩
      · exact absurd h bind_throw_ne_ok

theorem exists_of_render_integer_eq_ok {v : Value} {t : Text} (hv : v ≠ .null)
    (h : Tag.integer.render v = .ok t) :
    ∃ n, isWritable n = true ∧ t = intText n ∧ (v.toInteger? = some n ∨
      v.toInteger?.bind intText? = none ∧ v.toIntegerByFloat? = some n) := by
  rw [render] at h
  split_ifs at h
  exact (exists_of_renderInteger_eq_ok h).resolve_left fun hnull => hv hnull.1

/-! ### Numbers -/

theorem toInteger?_eq_truncated {v : Value} {q : ℚ} (hv : v.Denotes q) (htext : v.isText = false)
    {n : ℤ} (h : v.toInteger? = some n) : n = truncated q := by
  cases hv with
  | bool b =>
    have hcast : (if b then 1 else 0 : ℚ) = ((if b then 1 else 0 : ℤ) : ℚ) := by cases b <;> simp
    rw [← Option.some.inj h, hcast, truncated_intCast]
  | int n => rw [← Option.some.inj h, truncated_intCast]
  | float negative x =>
    rw [Value.toInteger?] at h
    obtain ⟨_, _, heq, rfl⟩ := (Binary64.truncate?_eq_some_iff _ n).mp h
    cases heq
    rfl
  | decimal negative x =>
    rw [Value.toInteger?] at h
    obtain ⟨_, _, heq, rfl⟩ := Decimal.eq_of_truncate?_eq_some h
    cases heq
    rfl
  | text p => cases htext

/-- A number that is a value by itself loses its fraction only. -/
theorem render_integer_of_isText_eq_false {v : Value} {q : ℚ} (hv : v.Denotes q)
    (htext : v.isText = false) {t : Text} (h : Tag.integer.render v = .ok t) :
    t = intText (truncated q) := by
  have hnull : v ≠ .null := by
    rintro rfl
    cases hv
  obtain ⟨n, -, rfl, hn | ⟨-, hn⟩⟩ := exists_of_render_integer_eq_ok hnull h
  · rw [toInteger?_eq_truncated hv htext hn]
  · cases hv with
    | bool | int | float | decimal => cases hn
    | text p => cases htext

/-! ### Texts -/

theorem toIntegerByFloat?_text_eq_some_iff (p : Spelling) (n : ℤ) :
    (Value.text p.text).toIntegerByFloat? = some n ↔ p.IsSpaced ∧
      (Binary64.ofScientific p.negative p.magnitude).truncate? = some n := by
  rw [Value.toIntegerByFloat?, Option.bind_eq_some_iff]
  constructor
  · rintro ⟨x, hx, hn⟩
    obtain ⟨hspaced, rfl⟩ := (p.readFloat?_eq_some_iff x).mp hx
    exact ⟨hspaced, hn⟩
  · rintro ⟨hspaced, hn⟩
    exact ⟨_, (p.readFloat?_eq_some_iff _).mpr ⟨hspaced, rfl⟩, hn⟩

section

variable {p : Spelling} {t : Text} (h : Tag.integer.render (.text p.text) = .ok t)

include h

theorem isSpaced_of_render_integer : p.IsSpaced := by
  obtain ⟨n, -, -, hn | ⟨-, hn⟩⟩ := exists_of_render_integer_eq_ok (by simp) h
  · exact ((p.readInteger?_eq_some_iff n).mp hn).1
  · exact ((toIntegerByFloat?_text_eq_some_iff p n).mp hn).1

/-- The text of an integer is printed as the integer. -/
theorem render_integer_of_isInteger (hp : p.IsInteger) : t = intText (truncated p.value) := by
  obtain ⟨n, -, rfl, hn | ⟨hnone, -⟩⟩ := exists_of_render_integer_eq_ok (by simp) h
  · rw [((p.readInteger?_eq_some_iff n).mp hn).2.2]
  · have hread :=
      (p.readInteger?_eq_some_iff _).mpr ⟨isSpaced_of_render_integer h, hp, rfl⟩
    rw [Value.toInteger?, hread, Option.bind_some,
      intText?_eq_some_iff.mpr ⟨p.isWritable_truncated hp, rfl⟩] at hnone
    cases hnone

/-- Any other numeral is printed by way of the nearest binary number. -/
theorem exists_isNearest_of_render_integer (hp : ¬p.IsInteger) :
    ∃ x : Number.Dyadic, x.IsNearest p.magnitude.value ∧
      t = intText (truncated (signed p.negative x.value)) := by
  obtain ⟨n, -, rfl, hn | ⟨-, hn⟩⟩ := exists_of_render_integer_eq_ok (by simp) h
  · exact absurd ((p.readInteger?_eq_some_iff n).mp hn).2.1 hp
  · obtain ⟨-, hn⟩ := (toIntegerByFloat?_text_eq_some_iff p n).mp hn
    obtain ⟨sign, x, hx, rfl⟩ := (Binary64.truncate?_eq_some_iff _ n).mp hn
    obtain ⟨rfl, hnearest⟩ := Binary64.isNearest_of_ofScientific_eq hx
    exact ⟨x, hnearest, rfl⟩

theorem not_roundsPast_of_isInteger (hp : p.IsInteger) :
    ¬(Value.text p.text).RoundsPast p.value := by
  rintro ⟨⟨p', htext, hp'⟩, -⟩
  exact hp' (Spelling.isInteger_of_text_eq (isSpaced_of_render_integer h) hp
    (Value.text.inj htext))

end

/-- The nearest number being the only one, it decides whether a whole number is passed. -/
theorem roundsPast_iff {p : Spelling} (hp : ¬p.IsInteger) {x : Number.Dyadic}
    (hx : x.IsNearest p.magnitude.value) : (Value.text p.text).RoundsPast p.value ↔
      ¬∀ n : ℕ, (n : ℚ) ≤ x.value ↔ (n : ℚ) ≤ p.magnitude.value := by
  rw [Value.RoundsPast, Spelling.value, abs_signed _ p.magnitude.value_nonneg, not_forall]
  constructor
  · rintro ⟨-, y, n, hy, hn⟩
    rw [hy.value_unique hx] at hn
    exact ⟨n, hn⟩
  · rintro ⟨n, hn⟩
    exact ⟨⟨p, rfl, hp⟩, x, n, hx, hn⟩

/-! ### Every number -/

/-- A number is printed without its fraction, and nothing else of it is lost. Only the text of a
numeral that is no integer within the digit limit may be printed as another integer, if it is
rounded past one. -/
theorem integer_printed_truncated {v : Value} {q : ℚ} {t : Text} (hv : v.Denotes q)
    (h : Tag.integer.render v = .ok t) : IsPrinted v q t := by
  have hrounded (p : Spelling) (htext : v = .text p.text) (hp : ¬p.IsInteger) :
      ∃ x : Number.Dyadic, x.IsNearest p.magnitude.value ∧
        t = intText (truncated (signed p.negative x.value)) := by
    rw [htext] at h
    exact exists_isNearest_of_render_integer h hp
  cases htext : v.isText with
  | false =>
    have hexact := render_integer_of_isText_eq_false hv htext h
    refine ⟨iff_of_true hexact ?_, hrounded, fun _ _ _ => hexact⟩
    rintro ⟨⟨p, rfl, -⟩, -⟩
    cases htext
  | true =>
    cases hv with
    | bool | int | float | decimal => cases htext
    | text p =>
      by_cases hp : p.IsInteger
      · have hexact := render_integer_of_isInteger h hp
        exact ⟨iff_of_true hexact (not_roundsPast_of_isInteger h hp), hrounded,
          fun _ _ _ => hexact⟩
      · obtain ⟨x, hx, rfl⟩ := exists_isNearest_of_render_integer h hp
        have hexact := truncated_signed_eq_iff p.negative x.value_nonneg p.magnitude.value_nonneg
        refine ⟨?_, hrounded, fun m hm hshort => ?_⟩
        · rw [roundsPast_iff hp hx, not_not, intText_injective.eq_iff, Spelling.value, hexact]
        · rw [Spelling.value, abs_signed _ p.magnitude.value_nonneg] at hm
          rw [← hm] at hx
          rw [Spelling.value, ← hm, truncated_signed _ x.value_nonneg,
            truncated_signed _ m.value_nonneg, hx.floor_eq_of_isShort hshort]

def almostFour : Spelling := .bare ['3'] (some ['9']) rfl (by decide)

/-- The fraction of a text is dropped. -/
theorem integer_printed_truncated_almost_four :
    Tag.integer.render (.text almostFour.text) = .ok "3".toList ∧
      IsPrinted (.text almostFour.text) almostFour.value "3".toList := by
  have hfour : Tag.integer.render (.text almostFour.text) = .ok "3".toList := by decide +kernel
  exact ⟨hfour, integer_printed_truncated (.text almostFour) hfour⟩

/-- The whole number before the point is odd and has no binary number. -/
def betweenNumbers : Spelling := .bare "9007199254740993".toList (some ['0']) rfl (by decide)

theorem render_integer_betweenNumbers :
    Tag.integer.render (.text betweenNumbers.text) = .ok "9007199254740992".toList := by
  decide +kernel

theorem truncated_value_betweenNumbers :
    intText (truncated betweenNumbers.value) = "9007199254740993".toList := by
  rw [Spelling.value, truncated_signed _ betweenNumbers.magnitude.value_nonneg,
    ← Scientific.floor_eq]
  decide +kernel

/-- A text loses more than its fraction if it is rounded past a whole number. -/
theorem exists_printed_not_truncated :
    ¬∀ v q t, Value.Denotes v q → Tag.integer.render v = .ok t → t = intText (truncated q) := by
  intro h
  have hprinted := h _ _ _ (.text betweenNumbers) render_integer_betweenNumbers
  rw [truncated_value_betweenNumbers] at hprinted
  exact absurd hprinted (by decide)

end Tag

end QueryTemplate
