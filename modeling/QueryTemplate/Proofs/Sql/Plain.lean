import Mathlib.Tactic
import QueryTemplate.Value.Display

/-! Texts without quotes and backslashes. Numbers and dates are written in such texts, whatever
their kind, their size and their style. -/

namespace QueryTemplate.Sql

open Number

/-- Whether a character opens or closes a quoted text or escapes the next one. -/
def isSpecial (c : Char) : Bool := c = '\'' || c = '"' || c = '`' || c = '\\'

/-- A text that quotes nothing and escapes nothing. -/
def Plain (t : Text) : Prop := ∀ c ∈ t, isSpecial c = false

instance (t : Text) : Decidable (Plain t) :=
  List.decidableBAll (fun c => isSpecial c = false) t

@[simp]
theorem plain_nil : Plain [] := fun _ h => absurd h List.not_mem_nil

@[simp]
theorem plain_cons_iff (c : Char) (t : Text) : Plain (c :: t) ↔ isSpecial c = false ∧ Plain t :=
  List.forall_mem_cons

@[simp]
theorem plain_append_iff (s t : Text) : Plain (s ++ t) ↔ Plain s ∧ Plain t := List.forall_mem_append

theorem Plain.of_subset {s t : Text} (ht : Plain t) (h : s ⊆ t) : Plain s := fun c hc => ht c (h hc)

theorem plain_replicate (n : Nat) {c : Char} (h : isSpecial c = false) :
    Plain (List.replicate n c) := by
  intro d hd
  rwa [List.eq_of_mem_replicate hd]

theorem isSpecial_digitChar (n : Nat) : isSpecial n.digitChar = false := by
  by_cases h : n < 16
  · interval_cases n <;> rfl
  · rw [Nat.digitChar_eq_star.mpr (by omega)]
    rfl

theorem plain_toDigits {base : Nat} (hbase : 1 < base) (n : Nat) : Plain (Nat.toDigits base n) := by
  induction n using Nat.strongRecOn with
  | ind n ih =>
    rw [Nat.toDigits_eq_if hbase]
    split_ifs with h
    · simp [isSpecial_digitChar]
    · have hlt : n / base < n := Nat.div_lt_self (by omega) hbase
      simp [isSpecial_digitChar, ih _ hlt]

@[simp]
theorem plain_digits (n : Nat) : Plain (digits n) := plain_toDigits (by decide) n

@[simp]
theorem plain_zeros (n : Nat) : Plain (List.replicate n '0') := plain_replicate n rfl

theorem plain_intText (n : Int) : Plain (intText n) := by
  cases n with
  | ofNat n => exact plain_digits n
  | negSucc n => exact (plain_cons_iff _ _).mpr ⟨rfl, plain_digits _⟩

theorem plain_hex (width n : Nat) : Plain (Text.hex width n) := by
  rw [Text.hex, plain_append_iff]
  exact ⟨plain_zeros _, plain_toDigits (by decide) n⟩

theorem plain_padded (width n : Nat) : Plain (Value.padded width n) := by
  rw [Value.padded, plain_append_iff]
  exact ⟨plain_zeros _, plain_digits n⟩

/-! ### Magnitudes -/

theorem plain_positionalText (keepsPoint : Bool) (x : Scientific) :
    Plain (x.positionalText keepsPoint) := by
  have hdigits := plain_digits x.coefficient
  have htake : ∀ n, Plain ((digits x.coefficient).take n) := fun n =>
    hdigits.of_subset (List.take_subset n _)
  have hdrop : ∀ n, Plain ((digits x.coefficient).drop n) := fun n =>
    hdigits.of_subset (List.drop_subset n _)
  unfold Scientific.positionalText
  dsimp only
  split_ifs <;> simp [isSpecial, htake, hdrop]

theorem plain_exponentText (width : Nat) (e : Int) : Plain (Scientific.exponentText width e) := by
  unfold Scientific.exponentText
  dsimp only
  split_ifs <;> simp [isSpecial]

theorem plain_exponentialText (keepsPoint : Bool) {mark : Char} (hmark : isSpecial mark = false)
    (width : Nat) (x : Scientific) : Plain (x.exponentialText keepsPoint mark width) := by
  have hdigits := plain_digits x.coefficient
  have hfirst := hdigits.of_subset (List.take_subset 1 _)
  have hrest := hdigits.of_subset (List.drop_subset 1 _)
  have hexponent := plain_exponentText width x.adjusted
  unfold Scientific.exponentialText
  dsimp only
  split_ifs <;> simp_all [isSpecial]

theorem plain_scientific (style : Scientific.Style) (hmark : isSpecial style.mark = false)
    (x : Scientific) : Plain (x.text style) := by
  rw [Scientific.text]
  split_ifs
  · exact plain_positionalText _ x
  · exact plain_exponentialText _ hmark _ x

theorem plain_binary64 (x : Binary64) : Plain x.text := by
  cases x with
  | nan => decide
  | infinite negative => cases negative <;> decide
  | finite negative x =>
    have hmagnitude := plain_scientific Binary64.style rfl x.shortest
    rw [Binary64.text]
    cases negative <;> simp [isSpecial, hmagnitude]

theorem plain_decimal (x : Decimal) : Plain x.text := by
  cases x with
  | finite negative x =>
    have hmagnitude := plain_scientific Decimal.style rfl x
    rw [Decimal.text]
    cases negative <;> simp [isSpecial, hmagnitude]
  | infinite negative => cases negative <;> decide
  | nan negative signalling payload =>
    rw [Decimal.text]
    cases negative <;> cases signalling <;> split_ifs <;> simp [isSpecial]

end QueryTemplate.Sql
