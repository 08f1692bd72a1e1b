import QueryTemplate.Number.Magnitude

/-!
The values that fill a template: scalars, the skip marker, collections of values, and what else a
caller may have. `typeName` names a value's type for messages; `fullTypeName` adds the library it
belongs to, if any.
-/

namespace QueryTemplate

open Number

/-- What is known of a value of any other type: what the type is called, and how the value reads as
plain text and is shown in a message. -/
structure Foreign where
  typeName : String
  fullTypeName : String
  plain : Text
  shown : Text
  deriving DecidableEq

/-- An argument of a query, or what a client sends in place of one. -/
inductive Value where
  | null
  | bool (b : Bool)
  | int (n : Int)
  | float (x : Binary64)
  | decimal (x : Decimal)
  | text (s : Text)
  | bytes (data : List UInt8)
  | date (year month day : Nat)
  /-- The marker that drops the conditional block it is given for. -/
  | skip
  | list (items : List Value)
  | tuple (items : List Value)
  | set (items : List Value)
  | frozenSet (items : List Value)
  | mapping (entries : List (Value × Value))
  | orderedMapping (entries : List (Value × Value))
  /-- A mapping of any other type. -/
  | foreignMapping (form : Foreign) (entries : List (Value × Value))
  /-- A value of any other type. It is no number, no collection, and equal to no other key. -/
  | object (form : Foreign)

namespace Value

instance : Inhabited Value := ⟨.null⟩

def typeName : Value → String
  | .null => "NoneType"
  | .bool _ => "bool"
  | .int _ => "int"
  | .float _ => "float"
  | .decimal _ => "Decimal"
  | .text _ => "str"
  | .bytes _ => "bytes"
  | .date .. => "date"
  | .skip => "Skip"
  | .list _ => "list"
  | .tuple _ => "tuple"
  | .set _ => "set"
  | .frozenSet _ => "frozenset"
  | .mapping _ => "dict"
  | .orderedMapping _ => "OrderedDict"
  | .foreignMapping form _ | .object form => form.typeName

def fullTypeName : Value → String
  | .decimal _ => "decimal.Decimal"
  | .date .. => "datetime.date"
  | .orderedMapping _ => "collections.OrderedDict"
  | .foreignMapping form _ | .object form => form.fullTypeName
  | v => v.typeName

def isSkip : Value → Bool
  | .skip => true
  | _ => false

def isText : Value → Bool
  | .text _ => true
  | _ => false

def items? : Value → Option (List Value)
  | .list items | .tuple items => some items
  | _ => none

/-- The entries of a dictionary. -/
def members? : Value → Option (List (Value × Value))
  | .mapping entries | .orderedMapping entries => some entries
  | _ => none

/-- The entries of any mapping. -/
def entries? : Value → Option (List (Value × Value))
  | .foreignMapping _ entries => some entries
  | v => v.members?

def isContainer : Value → Bool
  | .list _ | .tuple _ | .set _ | .frozenSet _ => true
  | .mapping _ | .orderedMapping _ | .foreignMapping .. => true
  | _ => false

/-- What a value yields one after the other: the characters of a text, the numbers of bytes, the
items of a collection, the keys of a mapping. A scalar or an object yields nothing and is not even
empty. -/
def elements? : Value → Option (List Value)
  | .text s => some (s.map fun c => .text [c])
  | .bytes data => some (data.map fun byte => .int byte.toNat)
  | .list items | .tuple items | .set items | .frozenSet items => some items
  | .mapping entries | .orderedMapping entries | .foreignMapping _ entries =>
    some (entries.map Prod.fst)
  | _ => none

def length? (v : Value) : Option Nat := v.elements?.map List.length

/-- A number as its sign and size. A truth value counts as one or zero. -/
def size? : Value → Option Signed
  | .bool b => some (intSize (if b then 1 else 0))
  | .int n => some (intSize n)
  | .float x => x.size?
  | .decimal x => x.size?
  | _ => none

mutual

/-- Whether two keys of a mapping are the same key. Numbers are compared by size, whatever their
kind; collections that may change are no keys. -/
def sameKey : Value → Value → Bool
  | .null, .null => true
  | .skip, .skip => true
  | .text s, .text t => s == t
  | .bytes s, .bytes t => s == t
  | .date y m d, .date y' m' d' => y == y' && m == m' && d == d'
  | .tuple xs, .tuple ys => sameKeys xs ys
  | .frozenSet xs, .frozenSet ys => sameKeys xs ys
  | x, y =>
    match x.size?, y.size? with
    | some a, some b => a.same b
    | _, _ => false

def sameKeys : List Value → List Value → Bool
  | [], [] => true
  | x :: xs, y :: ys => sameKey x y && sameKeys xs ys
  | _, _ => false

end

def findEntry? (entries : List (Value × Value)) (key : Value) : Option Value :=
  (entries.find? fun entry => entry.1.sameKey key).map Prod.snd

/-- Put a value under a key. A key that is there keeps its place and its spelling, and gets the new
value. -/
def insertEntry (entries : List (Value × Value)) (key value : Value) : List (Value × Value) :=
  if entries.any fun entry => entry.1.sameKey key then
    entries.map fun entry => if entry.1.sameKey key then (entry.1, value) else entry
  else entries ++ [(key, value)]

def ofPairs (pairs : List (Value × Value)) : List (Value × Value) :=
  pairs.foldl (fun entries pair => insertEntry entries pair.1 pair.2) []

end Value

end QueryTemplate
