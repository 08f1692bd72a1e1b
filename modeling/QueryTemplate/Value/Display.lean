import QueryTemplate.Value.Basic
import QueryTemplate.Number.Shortest
import QueryTemplate.Text.Quoted

/-!
How a value is shown in a message (`display?`), and how it reads as plain text (`plain?`). The two
differ for texts, decimal numbers and dates, whose display says what they are. A value that holds
an integer beyond the digit limit has neither.
-/

namespace QueryTemplate.Value

open Number

def padded (width n : Nat) : Text :=
  List.replicate (width - (digits n).length) '0' ++ digits n

def commaSeparated (parts : List Text) : Text := [',', ' '].intercalate parts

mutual

def display? : Value → Option Text
  | .null => some "None".toList
  | .bool b => some (if b then "True".toList else "False".toList)
  | .int n => intText? n
  | .float x => some x.text
  | .decimal x => some ("Decimal('".toList ++ x.text ++ "')".toList)
  | .text s => some (Text.quoted s)
  | .bytes data => some (Text.quotedBytes data)
  | .date y m d =>
    some ("datetime.date(".toList ++ commaSeparated [digits y, digits m, digits d] ++ [')'])
  | .skip => some "<skip>".toList
  | .list items => (displayAll? items).map fun parts => '[' :: commaSeparated parts ++ [']']
  | .tuple items => (displayAll? items).map fun parts =>
    '(' :: commaSeparated parts ++ if parts.length = 1 then [',', ')'] else [')']
  | .set items => (displayAll? items).map fun parts =>
    if parts.isEmpty then "set()".toList else '\x7b' :: commaSeparated parts ++ ['\x7d']
  | .frozenSet items => (displayAll? items).map fun parts =>
    if parts.isEmpty then "frozenset()".toList
    else "frozenset(".toList ++ '\x7b' :: commaSeparated parts ++ ['\x7d', ')']
  | .mapping entries => (displayEntries? entries).map fun parts =>
    '\x7b' :: commaSeparated (parts.map fun part => part.1 ++ ": ".toList ++ part.2) ++ ['\x7d']
  | .orderedMapping entries => (displayEntries? entries).map fun parts =>
    if parts.isEmpty then "OrderedDict()".toList
    else
      let pair (part : Text × Text) : Text := '(' :: part.1 ++ ", ".toList ++ part.2 ++ [')']
      "OrderedDict([".toList ++ commaSeparated (parts.map pair) ++ "])".toList
  | .foreignMapping form _ | .object form => some form.shown

def displayAll? : List Value → Option (List Text)
  | [] => some []
  | v :: rest => do return (← v.display?) :: (← displayAll? rest)

def displayEntries? : List (Value × Value) → Option (List (Text × Text))
  | [] => some []
  | (key, value) :: rest => do
    return (← key.display?, ← value.display?) :: (← displayEntries? rest)

end

/-- A value as plain text: a text as it is, a number or a date without a word on its kind, and what
is of another type in its own way. -/
def plain? : Value → Option Text
  | .text s => some s
  | .decimal x => some x.text
  | .date y m d => some (['-'].intercalate [padded 4 y, padded 2 m, padded 2 d])
  | .foreignMapping form _ | .object form => some form.plain
  | v => v.display?

end QueryTemplate.Value
