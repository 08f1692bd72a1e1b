import QueryTemplate.Template.Check
import QueryTemplate.Template.Render

/-!
Filling a template. A cursor runs through the arguments: every slot takes the argument under the
cursor and moves it on by one. A block whose argument is the skip marker disappears and takes that
one argument; any other block with slots gives its interior, where braces have no meaning; a block
without slots is copied, braces and all.
-/

namespace QueryTemplate

/-- How an argument is found by its place. -/
abbrev Arguments := Int → Except Failure Value

namespace Arguments

/-- The failure for a place where a list holds nothing. Places are machine words. -/
def noItem (sequence : String) (position : Int) : Failure :=
  if position < -Nat.pow 2 63 || Nat.pow 2 63 ≤ position then .indexTooLarge
  else .outOfRange sequence

/-- The item of a list at a place; a negative place counts from the end. -/
def itemAt {α : Type} (sequence : String) (items : List α) (position : Int) : Except Failure α :=
  let place := if position < 0 then position + items.length else position
  if place < 0 then .error (noItem sequence position)
  else match items[place.toNat]? with
    | some item => .ok item
    | none => .error (noItem sequence position)

def ofList (items : List Value) : Arguments := itemAt "list" items

/-- The arguments of any value that can be asked for a place. A mapping is asked for the place as
a key. -/
def ofValue : Value → Arguments
  | .list items, position => itemAt "list" items position
  | .tuple items, position => itemAt "tuple" items position
  | .text s, position => return .text [← itemAt "string" s position]
  | .bytes data, position => return .int (← itemAt "" data position).toNat
  | .mapping entries, position | .orderedMapping entries, position
  | .foreignMapping _ entries, position =>
    match Value.findEntry? entries (.int position) with
    | some value => .ok value
    | none => do throw (.missingKey (← (Value.int position).display))
  | v, _ => .error (.notSubscriptable v.fullTypeName)

end Arguments

namespace Template

/-- What a slot becomes. Its run is looked at before its argument. -/
def fillSlot (args : Arguments) (run : Text) (position : Int) : Except Failure Text :=
  match Tag.ofRun? run with
  | none => .error (.unknownRun run)
  | some tag => do tag.render (← args position)

/-- Fill segments from left to right, with the given treatment of blocks. The text comes with the
cursor after the last argument taken. -/
def fillSegments (args : Arguments) (onBlock : Text → Int → Except Failure (Text × Int)) :
    List Segment → Int → Except Failure (Text × Int)
  | [], position => .ok ([], position)
  | .char c :: rest, position => do
    let (tail, final) ← fillSegments args onBlock rest position
    return (c :: tail, final)
  | .slot run :: rest, position => do
    let head ← fillSlot args run position
    let (tail, final) ← fillSegments args onBlock rest (position + 1)
    return (head ++ tail, final)
  | .block body :: rest, position => do
    let (head, next) ← onBlock body position
    let (tail, final) ← fillSegments args onBlock rest next
    return (head ++ tail, final)

def copyBlock (body : Text) (position : Int) : Except Failure (Text × Int) :=
  .ok ((Segment.block body).source, position)

def fillBlock (args : Arguments) (body : Text) (position : Int) : Except Failure (Text × Int) :=
  if Segment.slotCount body = 0 then copyBlock body position
  else do
    if (← args position).isSkip then return ([], position + 1)
    fillSegments args copyBlock (Segment.slots body) position

/-- Fill a template with the arguments from a place on. With `blocks` false braces have no
meaning. -/
def substitute (template : Text) (args : Arguments) (position : Int) (blocks : Bool) :
    Except Failure (Text × Int) :=
  fillSegments args (fillBlock args) (Segment.scan ⟨blocks, true⟩ template) position

def compile (template : Text) (args : List Value) : Except Failure Text := do
  validate template args.length
  return (← substitute template (.ofList args) 0 true).1

/-- The arguments of a call: the elements of what was passed, none if nothing was passed. -/
def arguments : Value → Except Failure (List Value)
  | .null => .ok []
  | v => elements v

def compileOf (template args : Value) : Except Failure Text := do
  let args ← arguments args
  match template with
  | .text s => compile s args
  | v => do
    checkBlocksOf v
    ofValue v

end Template

end QueryTemplate
