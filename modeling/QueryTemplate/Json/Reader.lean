import QueryTemplate.Json.Encoding
import QueryTemplate.Value.Basic

/-!
Reading a JSON document as a value. Objects become mappings in the order of their names, where a
name that comes again keeps its place and gets the later value. A number with a point or an
exponent is a binary number, any other an integer; `NaN` and the infinities have names. Strings
hold no control characters. A document is read from left to right and its first fault is reported:
a character out of place, or a container inside too many others. What a container holds takes
levels as well: a number with a name takes one, and the report of a character that stands where a
comma, a colon or a name should stand, or spoils a string, takes a few of them. That a value is
missing is reported outside of all containers and takes none. How many levels there are depends on
where the reader runs.
-/

namespace QueryTemplate.Json

open Number

def isSpace (c : Char) : Bool := c = ' ' || c = '\t' || c = '\n' || c = '\r'

def skipSpace (s : Text) : Text := s.dropWhile isSpace

def after? (word s : Text) : Option Text :=
  if word.isPrefixOf s then some (s.drop word.length) else none

def hexValue? (c : Char) : Option Nat :=
  if c.isDigit then some (c.toNat - '0'.toNat)
  else if 'a' ≤ c ∧ c ≤ 'f' then some (c.toNat - 'a'.toNat + 10)
  else if 'A' ≤ c ∧ c ≤ 'F' then some (c.toNat - 'A'.toNat + 10)
  else none

def hex4? (a b c d : Char) : Option Nat := do
  return (((← hexValue? a) * 16 + (← hexValue? b)) * 16 + (← hexValue? c)) * 16 + (← hexValue? d)

def escaped? : Char → Option Char
  | '"' => some '"'
  | '\\' => some '\\'
  | '/' => some '/'
  | 'b' => some '\x08'
  | 'f' => some '\x0c'
  | 'n' => some '\n'
  | 'r' => some '\r'
  | 't' => some '\t'
  | _ => none

/-- The characters of a string up to its closing quote, and what follows that quote. -/
def stringBody? : Text → Option (Text × Text)
  | [] => none
  | '"' :: rest => some ([], rest)
  | '\\' :: 'u' :: a :: b :: c :: d :: '\\' :: 'u' :: e :: f :: g :: h :: rest => do
    let unit ← hex4? a b c d
    match (hex4? e f g h).bind (Encoding.joined? unit) with
    | some c => (stringBody? rest).map fun (s, tail) => (c :: s, tail)
    | none =>
      let c ← Text.ofCode? unit
      (stringBody? ('\\' :: 'u' :: e :: f :: g :: h :: rest)).map fun (s, tail) => (c :: s, tail)
  | '\\' :: 'u' :: a :: b :: c :: d :: rest => do
    let c ← Text.ofCode? (← hex4? a b c d)
    (stringBody? rest).map fun (s, tail) => (c :: s, tail)
  | '\\' :: sign :: rest => do
    let c ← escaped? sign
    (stringBody? rest).map fun (s, tail) => (c :: s, tail)
  | c :: rest =>
    if c.toNat < 0x20 || c = '\\' then none
    else (stringBody? rest).map fun (s, tail) => (c :: s, tail)

/-- A fraction at the beginning of a text: a point and digits. -/
def fraction (s : Text) : Text × Text :=
  match s with
  | '.' :: rest =>
    let ds := rest.takeWhile Char.isDigit
    if ds.isEmpty then ([], s) else (ds, rest.dropWhile Char.isDigit)
  | _ => ([], s)

/-- An exponent at the beginning of a text: its mark, a sign or none, and digits. -/
def exponent (s : Text) : Option Int × Text :=
  match s with
  | c :: rest =>
    let (negative, tail) := Numeral.splitSign rest
    let ds := tail.takeWhile Char.isDigit
    if (c = 'e' || c = 'E') && !ds.isEmpty then
      (some (if negative then -(ofDigits ds : Int) else ofDigits ds), tail.dropWhile Char.isDigit)
    else (none, s)
  | [] => (none, s)

/-- The digits in front of the point: a zero alone, or digits that begin with another one. -/
def wholeDigits? (s : Text) : Option (Text × Text) :=
  match s with
  | '0' :: rest => some (['0'], rest)
  | _ =>
    let ds := s.takeWhile Char.isDigit
    if ds.isEmpty then none else some (ds, s.dropWhile Char.isDigit)

/-- A number at the beginning of a text. An integer has `digitLimit` digits at most. -/
def number? (s : Text) : Option (Value × Text) := do
  let (negative, body) := match s with
    | '-' :: rest => (true, rest)
    | _ => (false, s)
  let (whole, rest) ← wholeDigits? body
  let (parts, rest) := fraction rest
  let (power, rest) := exponent rest
  if parts.isEmpty && power.isNone then
    if whole.length ≤ digitLimit then
      let n := ofDigits whole
      return (.int (if negative then -(n : Int) else n), rest)
    else none
  else
    let magnitude : Scientific := ⟨ofDigits (whole ++ parts), power.getD 0 - parts.length⟩
    return (.float (Binary64.ofScientific negative magnitude), rest)

def constants : List (Text × Value) :=
  [("null".toList, .null), ("true".toList, .bool true), ("false".toList, .bool false),
   ("NaN".toList, .float .nan), ("Infinity".toList, .float (.infinite false)),
   ("-Infinity".toList, .float (.infinite true))]

def constant? (s : Text) : Option (Value × Text) :=
  constants.findSome? fun entry => (after? entry.1 s).map (entry.2, ·)

inductive Fault where
  | malformed
  | tooDeep
  deriving DecidableEq, Repr

/-- The levels that a reader has. -/
structure Stack where
  /-- How many containers may be open at once. -/
  room : Nat
  /-- How many levels the report of a character out of place takes. -/
  report : Nat
  deriving DecidableEq, Repr

def Fault.misplaced (report room : Nat) : Fault := if room < report then .tooDeep else .malformed

def orFault {α : Type} (fault : Fault) : Option α → Except Fault α
  | some a => .ok a
  | none => .error fault

/-- A named value or a number at the beginning of a text. A number that has a name takes a level. -/
def atom (room : Nat) (s : Text) : Except Fault (Value × Text) :=
  match constant? s, room with
  | some (.float _, _), 0 => .error .tooDeep
  | some found, _ => .ok found
  | none, _ => orFault .malformed (number? s)

mutual

/-- A value at the beginning of a text, and what follows it. A container takes a character when it
is opened and its first item or member is a step of its own, so two steps for each character
suffice; `room` containers may be opened inside each other. -/
def value (report : Nat) : (fuel room : Nat) → Text → Except Fault (Value × Text)
  | 0, _, _ => .error .malformed
  | fuel + 1, room, s =>
    match s, room with
    | '"' :: rest, room => do
      let (text, tail) ← orFault (.misplaced report room) (stringBody? rest)
      return (.text text, tail)
    | '[' :: _, 0 | '\x7b' :: _, 0 => .error .tooDeep
    | '[' :: rest, room + 1 =>
      match skipSpace rest with
      | ']' :: tail => .ok (.list [], tail)
      | start => do
        let (items, tail) ← elements report fuel room start
        return (.list items, tail)
    | '\x7b' :: rest, room + 1 =>
      match skipSpace rest with
      | '\x7d' :: tail => .ok (.mapping [], tail)
      | start => do
        let (pairs, tail) ← members report fuel room start
        return (.mapping (Value.ofPairs pairs), tail)
    | _, room => atom room s

def elements (report : Nat) : (fuel room : Nat) → Text → Except Fault (List Value × Text)
  | 0, _, _ => .error .malformed
  | fuel + 1, room, s => do
    let (item, rest) ← value report fuel room s
    match skipSpace rest with
    | ']' :: tail => return ([item], tail)
    | ',' :: tail =>
      let (items, final) ← elements report fuel room (skipSpace tail)
      return (item :: items, final)
    | _ => throw (.misplaced report room)

def members (report : Nat) : (fuel room : Nat) → Text → Except Fault (List (Value × Value) × Text)
  | 0, _, _ => .error .malformed
  | fuel + 1, room, s => do
    match s with
    | '"' :: start =>
      let (name, rest) ← orFault (.misplaced report room) (stringBody? start)
      match skipSpace rest with
      | ':' :: start =>
        let (item, rest) ← value report fuel room (skipSpace start)
        match skipSpace rest with
        | '\x7d' :: tail => return ([(.text name, item)], tail)
        | ',' :: tail =>
          let (pairs, final) ← members report fuel room (skipSpace tail)
          return ((.text name, item) :: pairs, final)
        | _ => throw (.misplaced report room)
      | _ => throw (.misplaced report room)
    | _ => throw (.misplaced report room)

end

def ofText (stack : Stack) (s : Text) : Except Fault Value := do
  let (value, rest) ← value stack.report (2 * s.length + 1) stack.room (skipSpace s)
  if (skipSpace rest).isEmpty then return value else throw .malformed

def ofBytes (stack : Stack) (data : List UInt8) : Except Fault Value := do
  ofText stack (← orFault .malformed (textOf? data))

end QueryTemplate.Json
