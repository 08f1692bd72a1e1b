import QueryTemplate.Sql.Literal

/-!
The text that a placeholder becomes for its argument. Each tag takes some values and refuses the
others with a failure that shows what it was given; none takes the skip marker.
-/

namespace QueryTemplate

open Number Sql

namespace Value

def display (v : Value) : Except Failure Text := orTooLong v.display?

def spelled (data : List UInt8) : Text := data.map fun byte => Char.ofNat byte.toNat

/-- The integer that a value converts to: numbers lose their fraction, texts and bytes are read
as numerals. -/
def toInteger? : Value → Option Int
  | .bool b => some (if b then 1 else 0)
  | .int n => some n
  | .float x => x.truncate?
  | .decimal x => x.truncate?
  | .text s => readInteger? s
  | .bytes data => (Numeral.asciiInteger (spelled data)).toOption
  | _ => none

/-- The integer that a text denotes if it is read as a number with a fraction. -/
def toIntegerByFloat? : Value → Option Int
  | .text s => (readFloat? s).bind Binary64.truncate?
  | _ => none

/-- The binary number that a value converts to. An integer keeps its overflow: it may come out
infinite. -/
def toFloat? : Value → Option Binary64
  | .bool b => some (Binary64.ofInt (if b then 1 else 0))
  | .int n => some (Binary64.ofInt n)
  | .float x => some x
  | .decimal x => x.toBinary64?
  | .text s => readFloat? s
  | .bytes data => Numeral.asciiFloat? (spelled data)
  | _ => none

def isTooLarge : Value → Bool
  | .int n => !(Binary64.ofInt n).isFinite
  | _ => false

end Value

namespace Tag

/-- An integer in decimal; nothing is `NULL`. An integer that is too long to be written counts as
one that cannot be converted. -/
def renderInteger : Value → Except Failure Text
  | .null => .ok "NULL".toList
  | v =>
    match v.toInteger?.bind intText? with
    | some s => .ok s
    | none =>
      match v.toIntegerByFloat?.bind intText? with
      | some s => .ok s
      | none => do throw (.notInteger (← v.display))

/-- A finite number in the fewest digits that read back; nothing is `NULL`. -/
def renderNumber : Value → Except Failure Text
  | .null => .ok "NULL".toList
  | v =>
    if v.isTooLarge then .error .integerTooLarge
    else match v.toFloat? with
      | none => do throw (.notNumber (← v.display))
      | some x => if x.isFinite then .ok x.text else do throw (.notFinite (← v.display))

def nameText? : Value → Option Text
  | .text s => some (quoteName s)
  | _ => none

def renderName (v : Value) : Except Failure Text :=
  match nameText? v, v.items? with
  | some s, _ => .ok s
  | none, some items =>
    match items.mapM nameText? with
    | some names => .ok (Value.commaSeparated names)
    | none => do throw (.nameNotText (← v.display))
  | none, none => .error (.notNames v.typeName)

/-- What an entry of an association stands under: an item of a list under its place, a value of a
mapping under its key. -/
inductive EntryKey where
  | place (i : Nat)
  | key (v : Value)

def EntryKey.display : EntryKey → Except Failure Text
  | .place i => .ok (digits i)
  | .key v => v.display

/-- An entry of an association: under a number the bare value, under a name the name and its
value. -/
def renderEntry (key : EntryKey) (item : Value) : Except Failure Text := do
  if item.isSkip || item.isContainer then
    throw (.entryValue (← key.display) (← item.display))
  match key with
  | .place _ | .key (.int (.ofNat _)) => literal item
  | .key (.text s) => return quoteName s ++ " = ".toList ++ (← literal item)
  | .key _ => throw (.entryKey (← key.display))

def associationEntries? (v : Value) : Option (List (EntryKey × Value)) :=
  match v.items? with
  | some items => some (items.mapIdx fun i item => (.place i, item))
  | none => v.entries?.map fun entries => entries.map fun entry => (.key entry.1, entry.2)

def renderAssociation (v : Value) : Except Failure Text :=
  match associationEntries? v with
  | some entries => do
    return Value.commaSeparated (← entries.mapM fun entry => renderEntry entry.1 entry.2)
  | none => .error (.notAssociation v.typeName)

def renderScalar : Value → Except Failure Text
  | v@(.text _) | v@(.int _) | v@(.float _) | v@(.bool _) | v@(.null) => literal v
  | v => .error (.notScalar v.typeName)

def render (tag : Tag) (v : Value) : Except Failure Text :=
  if v.isSkip then .error (.misplacedSkip tag)
  else match tag with
    | .scalar => renderScalar v
    | .integer => renderInteger v
    | .number => renderNumber v
    | .association => renderAssociation v
    | .name => renderName v

def named (run : Text) : Except Failure Tag :=
  match ofRun? run with
  | some tag => .ok tag
  | none => .error (.missingKey (Text.quoted run))

end Tag

end QueryTemplate
