import QueryTemplate.Number.Rounded
import QueryTemplate.Value.Display
import QueryTemplate.Failure

/-!
The audit trail: one row for each attempt at a query, in the order in which they were made. Rows
are numbered from one and never change. A store may refuse a row that it is given; the usual one
refuses what it has no form for.
-/

namespace QueryTemplate

namespace Audit

/-- A row, with its template as it is given or as it is kept. -/
structure Row (τ : Type) where
  caller : String
  template : τ
  argCount : Int
  sql : Option Text
  ok : Bool
  error : Option String
  deriving DecidableEq

/-- A row as it is kept. What is kept of a template is a text, or nothing. -/
abbrev Kept := Row (Option Text)

/-- A trail, its earliest row first. -/
abbrev Trail := List Kept

def entries (trail : Trail) : List (Nat × Kept) :=
  (trail.zipIdx 1).map fun entry => (entry.2, entry.1)

/-- A step that does not fail as a connection does. -/
def Steady {α : Type} (x : Except Failure α) : Prop :=
  ∀ failure, x = .error failure → failure.isTransient = false

/-- Where trails are kept. A store is opened, and then takes rows, each after those that it has;
either may fail. It is no database that queries are sent to, so none of its failures is one of a
connection. -/
structure Store where
  opened : Except Failure Unit
  write : Trail → Row Value → Except Failure Kept
  steady_write : ∀ trail row, Steady (write trail row)

def templateParameter : Nat := 2

/-- An integer as a row keeps it, in a word of 64 bits. -/
def storedInteger (n : Int) : Except Failure Int :=
  if -Nat.pow 2 63 ≤ n ∧ n < Nat.pow 2 63 then .ok n else .error .integerTooLargeToStore

def significantDigits : Nat := 15

/-- Kept numbers always have a point; from `10 ^ 15` on and below `10 ^ (-4)` they have an exponent
with a sign and two digits at least. -/
def numberStyle : Number.Scientific.Style where
  positional x := -4 ≤ x.adjusted && x.adjusted < significantDigits
  keepsPoint := true
  keepsPointBeforeMark := true
  mark := 'e'
  exponentWidth := 2

/-- A binary number as a row keeps it; zero has no sign, and nothing is kept of a NaN. -/
def storedNumber : Number.Binary64 → Option Text
  | .nan => none
  | .infinite negative => some ((if negative then ['-'] else []) ++ "Inf".toList)
  | .finite negative x =>
    let kept := x.rounded significantDigits
    some ((if negative && kept.coefficient ≠ 0 then ['-'] else []) ++ kept.text numberStyle)

/-- A text as a row keeps it, in UTF-8. -/
def storedText (s : Text) : Except Failure Text :=
  match Text.firstLone? s with
  | none => .ok s
  | some row => .error (.unencodable row)

/-- A template as a row keeps it. What is no text is kept as its text if it is a scalar, and
cannot be kept otherwise. -/
def storedTemplate : Value → Except Failure (Option Text)
  | .null => .ok none
  | .text s => (storedText s).map some
  | .bool b => .ok (some (if b then ['1'] else ['0']))
  | .int n => do return some (Number.intText (← storedInteger n))
  | .float x => .ok (storedNumber x)
  | .bytes data => .ok (some (data.map fun byte => Char.ofNat byte.toNat))
  | v@(.date ..) => .ok v.plain?
  | v => .error (.unstorable templateParameter v.fullTypeName)

def storedOption : Option Text → Except Failure (Option Text)
  | none => .ok none
  | some s => (storedText s).map some

/-- A row as the usual store keeps it. Its values are taken from left to right, and the first that
has no form there is reported. -/
def stored (row : Row Value) : Except Failure Kept := do
  let template ← storedTemplate row.template
  let argCount ← storedInteger row.argCount
  let sql ← storedOption row.sql
  let error ← storedOption (row.error.map String.toList)
  return { row with template, argCount, sql, error := error.map String.ofList }

section Steady

variable {α β : Type}

theorem steady_ok (a : α) : Steady (.ok a) := nofun

theorem Steady.bind {x : Except Failure α} {f : α → Except Failure β} (hx : Steady x)
    (hf : ∀ a, Steady (f a)) : Steady (x >>= f) := by
  cases x with
  | ok a => exact hf a
  | error e =>
    rintro failure ⟨⟩
    exact hx e rfl

theorem Steady.map {x : Except Failure α} (hx : Steady x) (f : α → β) : Steady (x.map f) := by
  cases x with
  | ok a => exact steady_ok (f a)
  | error e =>
    rintro failure ⟨⟩
    exact hx e rfl

theorem steady_storedText (s : Text) : Steady (storedText s) := by
  unfold storedText
  split
  · exact steady_ok s
  · rintro failure ⟨⟩
    rfl

theorem steady_storedInteger (n : Int) : Steady (storedInteger n) := by
  unfold storedInteger
  split
  · exact steady_ok n
  · rintro failure ⟨⟩
    rfl

theorem steady_storedTemplate (v : Value) : Steady (storedTemplate v) := by
  cases v with
  | text s => exact (steady_storedText s).map some
  | int n => exact (steady_storedInteger n).bind fun kept => steady_ok _
  | null | bool | float | bytes | date => exact steady_ok _
  | _ =>
    rintro failure ⟨⟩
    rfl

theorem steady_storedOption (s : Option Text) : Steady (storedOption s) := by
  cases s with
  | none => exact steady_ok none
  | some s => exact (steady_storedText s).map some

theorem steady_stored (row : Row Value) : Steady (stored row) :=
  (steady_storedTemplate _).bind fun _ => (steady_storedInteger _).bind fun _ =>
    (steady_storedOption _).bind fun _ => (steady_storedOption _).bind fun _ => steady_ok _

end Steady

/-- The usual store, which can be opened. -/
def Store.usual : Store where
  opened := .ok ()
  write _ row := stored row
  steady_write _ row := steady_stored row

end Audit

end QueryTemplate
