import QueryTemplate.Failure
import QueryTemplate.Number.Binary64

/-!
Calling again after a failure of the connection. A call makes attempts one after the other; it
ends with the first one that does not fail in that way, or when no try is left, and what it gives
is what its last attempt gave. Before each further attempt it warns and pauses. A warning that
cannot be written or a pause that fails ends the call with that failure.
-/

namespace QueryTemplate.Retry

structure Policy (δ : Type) where
  tries : Int
  delay : δ

def standardTries : Nat := 3

theorem isWritable_standardTries : Number.isWritable standardTries = true := by decide +kernel

def standardDelay : Number.Binary64 := Number.Binary64.ofInt 2

def warning (caller : String) (number : Nat) (tries : Int) (failure : Failure) : String :=
  s!"{caller} retry {number}/{tries} - " ++ failure.message

/-- What happens in a call. -/
inductive Event (τ δ : Type) where
  | attempted (made : τ)
  | warned (text : String)
  | slept (delay : δ)

namespace Event

variable {τ δ : Type}

def attempt? : Event τ δ → Option τ
  | .attempted made => some made
  | _ => none

def warning? : Event τ δ → Option String
  | .warned text => some text
  | _ => none

def pause? : Event τ δ → Option δ
  | .slept delay => some delay
  | _ => none

end Event

/-! Going on to another attempt. The warning names the number of tries, which is not written if it
has too many digits. -/

namespace Policy

variable {τ δ : Type} (policy : Policy δ)

/-- The warning with this text, if it can be written. -/
def warned (text : String) : List (Event τ δ) :=
  if Number.isWritable policy.tries then [.warned text] else []

/-- What comes of going on: the pause is made after a warning only. -/
def wait (sleep : δ → Except Failure Unit) : Except Failure Unit :=
  if Number.isWritable policy.tries then sleep policy.delay else .error .integerTooLong

section Writable

variable (text : String)

theorem wait_of_isWritable (h : Number.isWritable policy.tries = true)
    (sleep : δ → Except Failure Unit) : policy.wait sleep = sleep policy.delay :=
  if_pos h

end Writable

-- A power of ten with thousands of digits stands behind both.
attribute [irreducible] warned wait

end Policy

structure Report (τ α δ : Type) where
  /-- What has happened, the earliest first. -/
  history : List (Event τ δ)
  /-- What the call gives; nothing if it made no attempt. -/
  outcome? : Option (Except Failure α)

namespace Report

variable {τ α δ : Type}

/-- What a call comes to after these events. -/
def after (events : List (Event τ δ)) (report : Report τ α δ) : Report τ α δ :=
  { report with history := events ++ report.history }

def attempts (report : Report τ α δ) : List τ := report.history.filterMap Event.attempt?

def warnings (report : Report τ α δ) : List String := report.history.filterMap Event.warning?

def sleeps (report : Report τ α δ) : List δ := report.history.filterMap Event.pause?

end Report

section Run

variable {σ τ α δ : Type} (policy : Policy δ) (sleep : δ → Except Failure Unit) (caller : String)
  (attempt : σ → τ × σ) (result : τ → Except Failure α)

/-- The part of a call that has so many tries left. An attempt takes a state and leaves one for the
next. -/
def runFrom : (left : Nat) → σ → Report τ α δ
  | 0, _ => ⟨[], none⟩
  | left + 1, state =>
    let (made, next) := attempt state
    match result made with
    | .ok a => ⟨[.attempted made], some (.ok a)⟩
    | .error failure =>
      if failure.isTransient && left != 0 then
        let text := warning caller (policy.tries.toNat - left) policy.tries failure
        match policy.wait sleep with
        | .ok _ => (runFrom left next).after [.attempted made, .warned text, .slept policy.delay]
        | .error failure => ⟨.attempted made :: policy.warned text, some (.error failure)⟩
      else ⟨[.attempted made], some (.error failure)⟩

def run (state : σ) : Report τ α δ :=
  runFrom policy sleep caller attempt result policy.tries.toNat state

end Run

/-- What a function was called with, and what it gave. -/
abbrev Called (ι α : Type) := ι × Except Failure α

/-- One call of a function with these arguments. -/
def callOnce {ι σ α : Type} (function : ι → σ → Except Failure α × σ) (args : ι) (state : σ) :
    Called ι α × σ :=
  ((args, (function args state).1), (function args state).2)

/-- A call of a function. The function keeps a state from one attempt to the next; its arguments are
those of the call each time. -/
def call {ι σ α δ : Type} (policy : Policy δ) (sleep : δ → Except Failure Unit) (caller : String)
    (function : ι → σ → Except Failure α × σ) (args : ι) (state : σ) : Report (Called ι α) α δ :=
  run policy sleep caller (callOnce function args) Prod.snd state

/-- A function that gives the scripted outcomes in turn, and `rest` when these run out. -/
def scripted {ι α : Type} (rest : α) (_ : ι) (script : List (Except Failure α)) :
    Except Failure α × List (Except Failure α) :=
  (script.headD (.ok rest), script.tail)

end QueryTemplate.Retry
