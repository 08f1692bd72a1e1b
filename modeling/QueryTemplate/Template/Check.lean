import QueryTemplate.Template.Segment
import QueryTemplate.Value.Display
import QueryTemplate.Failure

/-!
What a template has to satisfy before it is filled: no block opens inside another one, no block
holds two slots, and there is one argument for each slot, in this order of precedence. A template
that is no text is still walked for nested blocks if it can be walked at all, and then refused.
-/

namespace QueryTemplate

/-- What the search for nested blocks looks at. -/
inductive Brace where
  | opening
  | closing
  deriving DecidableEq, Repr

namespace Brace

def ofChar? (c : Char) : Option Brace :=
  if c = '{' then some .opening else if c = '}' then some .closing else none

/-- The brace that a value is: a text of that one character. -/
def ofValue? : Value → Option Brace
  | .text [c] => ofChar? c
  | _ => none

/-- The place of the first opening brace after an opening one with no closing one between them.
`inside` says whether such a brace is open where the search begins, at the given place. -/
def nestedFrom? (inside : Bool) (position : Nat) : List (Option Brace) → Option Nat
  | [] => none
  | some .opening :: rest =>
    if inside then some position else nestedFrom? true (position + 1) rest
  | some .closing :: rest => nestedFrom? false (position + 1) rest
  | none :: rest => nestedFrom? inside (position + 1) rest

/-- The place of the first opening brace inside an open block. -/
def nested? (braces : List (Option Brace)) : Option Nat := nestedFrom? false 0 braces

end Brace

namespace Template

def checkNesting (braces : List (Option Brace)) : Except Failure Unit :=
  match Brace.nested? braces with
  | some position => .error (.nestedBlock position)
  | none => .ok ()

/-- Refuse blocks that hold two slots or more; the first such block is reported. -/
def checkCrowding (template : Text) : Except Failure Unit :=
  match (Segment.blocks template).find? fun segment =>
      segment.body?.any fun body => 1 < Segment.slotCount body with
  | some segment =>
    .error (.crowdedBlock segment.source ((segment.body?.map Segment.slotCount).getD 0))
  | none => .ok ()

def checkBlocks (template : Text) : Except Failure Unit := do
  checkNesting (template.map Brace.ofChar?)
  checkCrowding template

def checkCount (template : Text) (given : Nat) : Except Failure Unit :=
  let expected := Segment.slotCount template
  if expected = given then .ok () else .error (.argumentCount expected given)

def validate (template : Text) (given : Nat) : Except Failure Unit := do
  checkBlocks template
  checkCount template given

def ofValue : Value → Except Failure Text
  | .text s => .ok s
  | .bytes _ => .error .bytesTemplate
  | v => .error (.notTemplate v.fullTypeName)

def elements (v : Value) : Except Failure (List Value) :=
  match v.elements? with
  | some elements => .ok elements
  | none => .error (.notIterable v.fullTypeName)

def checkBlocksOf : Value → Except Failure Unit
  | .text s => checkBlocks s
  | v => do
    checkNesting ((← elements v).map Brace.ofValue?)
    checkCrowding (← ofValue v)

def size (v : Value) : Except Failure Nat :=
  match v.length? with
  | some n => .ok n
  | none => .error (.notSized v.fullTypeName)

def validateOf (template args : Value) : Except Failure Unit := do
  checkBlocksOf template
  checkCount (← ofValue template) (← size args)

end Template

end QueryTemplate
