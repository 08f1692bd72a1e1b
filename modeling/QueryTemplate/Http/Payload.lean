import QueryTemplate.Failure
import QueryTemplate.Value.Basic

/-!
What a client asks for: a template and its arguments. The skip marker has no JSON form of its own,
so an object with the one member `$skip` and a value equal to true stands for it.
-/

namespace QueryTemplate

structure Payload where
  template : Text
  args : List Value

namespace Payload

/-- Whether a value equals true: the truth value itself, or one in any kind of number. A
signalling NaN cannot be compared. -/
def equalsTrue : Value → Except Failure Bool
  | .decimal (.nan _ true _) => .error .signallingComparison
  | v =>
    match v.size? with
    | some size => .ok (size.same (Number.intSize 1))
    | none => .ok false

/-- The name of the only member of the object that stands for the skip marker. -/
def markerName : Text := "$skip".toList

def decodeArg (v : Value) : Except Failure Value :=
  match v.members? with
  | some [(.text name, value)] =>
    if name = markerName then do
      return if ← equalsTrue value then .skip else v
    else .ok v
  | _ => .ok v

/-- The arguments of a payload: an array, or nothing for none. -/
def decodeArgs : Value → Except Failure (List Value)
  | .null => .ok []
  | .list items => items.mapM decodeArg
  | _ => .error .argsNotArray

def member (entries : List (Value × Value)) (name : String) : Value :=
  (Value.findEntry? entries (.text name.toList)).getD .null

def ofValue (v : Value) : Except Failure Payload :=
  match v.members? with
  | none => .error .bodyNotObject
  | some entries =>
    match member entries "template" with
    | .text template => do return ⟨template, ← decodeArgs (member entries "args")⟩
    | _ => .error .templateMissing

end Payload

end QueryTemplate
