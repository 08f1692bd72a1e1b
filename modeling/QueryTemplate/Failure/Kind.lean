/-!
The kinds of failure and the families they form. A kind stands under one or more wider kinds;
`lineage` lists all of them, the kind itself first and the widest last, so that a failure can be
caught under any name in its lineage.
-/

namespace QueryTemplate

namespace Failure

inductive Kind where
  -- templates
  | template
  | structural
  | nestedBlock
  | crowdedBlock
  | argumentCount
  | unknownRun
  | unsupported
  | misplacedSkip
  -- values and collections
  | value
  | unicode
  | unicodeEncode
  | type
  | index
  | key
  | overflow
  | attribute
  | runtime
  | recursion
  | invalidOperation
  -- connections and statements
  | argument
  | operational
  | interface
  | programming
  | integrity
  | closedResult
  -- the widest
  | general
  | base
  | anything
  deriving DecidableEq, Repr

namespace Kind

/-- The name under which a client sees a kind. -/
def name : Kind → String
  | .template => "TemplateError"
  | .structural => "StructuralError"
  | .nestedBlock => "NestedBlockError"
  | .crowdedBlock => "BlockPlaceholderError"
  | .argumentCount => "ArgumentCountMismatch"
  | .unknownRun => "InvalidSpecifierError"
  | .unsupported => "UnsupportedTypeError"
  | .misplacedSkip => "MisplacedSkipError"
  | .value => "ValueError"
  | .unicode => "UnicodeError"
  | .unicodeEncode => "UnicodeEncodeError"
  | .type => "TypeError"
  | .index => "IndexError"
  | .key => "KeyError"
  | .overflow => "OverflowError"
  | .attribute => "AttributeError"
  | .runtime => "RuntimeError"
  | .recursion => "RecursionError"
  | .invalidOperation => "InvalidOperation"
  | .argument => "ArgumentError"
  | .operational => "OperationalError"
  | .interface => "InterfaceError"
  | .programming => "ProgrammingError"
  | .integrity => "IntegrityError"
  | .closedResult => "ResourceClosedError"
  | .general => "Exception"
  | .base => "BaseException"
  | .anything => "object"

def all : List Kind :=
  [.template, .structural, .nestedBlock, .crowdedBlock, .argumentCount, .unknownRun, .unsupported,
   .misplacedSkip, .value, .unicode, .unicodeEncode, .type, .index, .key, .overflow, .attribute,
   .runtime, .recursion, .invalidOperation, .argument, .operational, .interface, .programming,
   .integrity, .closedResult, .general, .base, .anything]

def ofName? (s : String) : Option Kind := all.find? fun kind => kind.name == s

/-- The kinds directly above a kind, the nearest first. -/
def parents : Kind → List Kind
  | .anything => []
  | .base => [.anything]
  | .general => [.base]
  | .template => [.value]
  | .structural | .argumentCount | .unknownRun => [.template]
  | .nestedBlock | .crowdedBlock => [.structural]
  | .unsupported => [.template, .type]
  | .misplacedSkip => [.unsupported]
  | .unicode => [.value]
  | .unicodeEncode => [.unicode]
  | .recursion => [.runtime]
  | _ => [.general]

/-- The kinds without those that come again later, so that a kind shared by several families
stands after all of its children. -/
def lastOccurrences : List Kind → List Kind
  | [] => []
  | kind :: rest =>
    if rest.contains kind then lastOccurrences rest else kind :: lastOccurrences rest

def lineageWithin : (height : Nat) → Kind → List Kind
  | 0, kind => [kind]
  | height + 1, kind => kind :: lastOccurrences (kind.parents.flatMap (lineageWithin height))

/-- A kind and all the kinds above it. No kind stands more than seven steps below the widest. -/
def lineage (kind : Kind) : List Kind := lineageWithin 7 kind

def isA (kind ancestor : Kind) : Bool := kind.lineage.contains ancestor

theorem isA_value_of_isA_template {kind : Kind} (h : kind.isA .template = true) :
    kind.isA .value = true := by
  revert h
  cases kind <;> decide

end Kind

end Failure

end QueryTemplate
