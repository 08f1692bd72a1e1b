import QueryTemplate.Failure.Kind
import QueryTemplate.Template.Tag
import QueryTemplate.Text.Quoted

/-!
Everything that can go wrong, as causes. `kind` says how a failure is caught and what a client is
told about its nature, `message` says what happened.
-/

namespace QueryTemplate

inductive Failure where
  -- a template that cannot be filled
  | nestedBlock (position : Nat)
  | crowdedBlock (block : Text) (slots : Nat)
  | argumentCount (expected given : Nat)
  | unknownRun (run : Text)
  -- an argument that its placeholder does not take
  | misplacedSkip (tag : Tag)
  | notInteger (shown : Text)
  | notNumber (shown : Text)
  | notFinite (shown : Text)
  | notNames (typeName : String)
  | nameNotText (shown : Text)
  | notAssociation (typeName : String)
  | entryValue (key item : Text)
  | entryKey (key : Text)
  | notScalar (typeName : String)
  -- a number out of reach
  | integerTooLong
  | integerTooLarge
  | signallingComparison
  -- a value used as what it is not
  | outOfRange (sequence : String)
  | indexTooLarge
  | missingKey (shown : Text)
  | notIterable (fullTypeName : String)
  | notSubscriptable (fullTypeName : String)
  | notSized (fullTypeName : String)
  | bytesTemplate
  | notTemplate (fullTypeName : String)
  -- a request that cannot be read
  | bodyTooDeep
  | bodyNotObject
  | templateMissing
  | argsNotArray
  -- a connection that cannot be made or used
  | unreadableUrl
  | badHostNumber (shown : Text)
  | hostNumberTooLong (digits : Nat)
  | unsupportedBackend (name : Text)
  | auditDisabled
  | unstorable (parameter : Nat) (fullTypeName : String)
  | integerTooLargeToStore
  | unencodable (row : Text.LoneRow)
  | columnCount (named found : Nat)
  -- what the database reports
  | statement (kind : Failure.Kind) (message : Text)
  deriving DecidableEq

namespace Failure

def kind : Failure → Kind
  | .nestedBlock _ => .nestedBlock
  | .crowdedBlock .. => .crowdedBlock
  | .argumentCount .. => .argumentCount
  | .unknownRun _ => .unknownRun
  | .misplacedSkip _ => .misplacedSkip
  | .notInteger _ | .notNumber _ | .notFinite _ | .notNames _ | .nameNotText _ | .notAssociation _
  | .entryValue .. | .entryKey _ | .notScalar _ => .unsupported
  | .integerTooLong => .value
  | .integerTooLarge | .integerTooLargeToStore => .overflow
  | .signallingComparison => .invalidOperation
  | .outOfRange _ | .indexTooLarge => .index
  | .missingKey _ => .key
  | .notIterable _ | .notSubscriptable _ | .notSized _ | .bytesTemplate | .notTemplate _ => .type
  | .bodyTooDeep => .recursion
  | .bodyNotObject | .templateMissing | .argsNotArray => .value
  | .unreadableUrl => .argument
  | .badHostNumber _ | .hostNumberTooLong _ | .unsupportedBackend _ | .columnCount .. => .value
  | .auditDisabled => .attribute
  | .unstorable .. => .programming
  | .unencodable _ => .unicodeEncode
  | .statement kind _ => kind

/-- Where the characters stand that cannot be encoded, and which it is if it is but one. -/
def unencodablePlace (row : Text.LoneRow) : String :=
  if row.first = row.last then
    "character '\\u" ++ String.ofList (Text.hex 4 row.code) ++ s!"' in position {row.first}"
  else s!"characters in position {row.first}-{row.last}"

def message : Failure → String
  | .nestedBlock position => s!"Nested conditional block at position {position}"
  | .crowdedBlock block slots =>
    "Conditional block " ++ String.ofList (Text.quoted block) ++
      s!" holds {slots} placeholders; exactly one is allowed"
  | .argumentCount expected given =>
    s!"Template has {expected} placeholder(s) but {given} argument(s) were given"
  | .unknownRun run => "Invalid specifier: " ++ String.ofList (Tag.placeholder run)
  | .misplacedSkip tag =>
    "skip() is only allowed as the argument of a conditional block, got it for " ++
      String.ofList (Tag.placeholder tag.run)
  | .notInteger shown => "Cannot convert " ++ String.ofList shown ++ " to integer for ?d"
  | .notNumber shown => "Cannot convert " ++ String.ofList shown ++ " to float for ?f"
  | .notFinite shown => "Non-finite float " ++ String.ofList shown ++ " for ?f"
  | .notNames typeName => "?# expects a name or a list of names, got " ++ typeName
  | .nameNotText shown => "Identifiers for ?# must be strings: " ++ String.ofList shown
  | .notAssociation typeName => "?a expects a mapping or a list, got " ++ typeName
  | .entryValue key item =>
    "Unsupported value for ?a entry " ++ String.ofList key ++ ": " ++ String.ofList item
  | .entryKey key => "Unsupported key for ?a: " ++ String.ofList key
  | .notScalar typeName =>
    "Argument for ? must be str, int, float, bool or None, got " ++ typeName
  | .integerTooLong =>
    "Exceeds the limit (4300 digits) for integer string conversion; " ++
      "use sys.set_int_max_str_digits() to increase the limit"
  | .integerTooLarge => "int too large to convert to float"
  | .signallingComparison => "[<class 'decimal.InvalidOperation'>]"
  | .outOfRange sequence =>
    if sequence.isEmpty then "index out of range" else sequence ++ " index out of range"
  | .indexTooLarge => "cannot fit 'int' into an index-sized integer"
  | .missingKey shown => String.ofList shown
  | .notIterable name => "'" ++ name ++ "' object is not iterable"
  | .notSubscriptable name => "'" ++ name ++ "' object is not subscriptable"
  | .notSized name => "object of type '" ++ name ++ "' has no len()"
  | .bytesTemplate => "cannot use a string pattern on a bytes-like object"
  | .notTemplate name => "expected string or bytes-like object, got '" ++ name ++ "'"
  | .bodyTooDeep => "Request body is nested too deeply"
  | .bodyNotObject => "Request body must be a JSON object"
  | .templateMissing => "Missing required field: 'template'"
  | .argsNotArray => "args must be a JSON array"
  | .unreadableUrl => "Could not parse SQLAlchemy URL from given URL string"
  | .badHostNumber shown => "invalid literal for int() with base 10: " ++ String.ofList shown
  | .hostNumberTooLong digits =>
    "Exceeds the limit (4300 digits) for integer string conversion: " ++
      s!"value has {digits} digits; use sys.set_int_max_str_digits() to increase the limit"
  | .unsupportedBackend name =>
    "Unsupported backend '" ++ String.ofList name ++
      "': templates are escaped for MySQL string literals, use one of ['mariadb', 'mysql']"
  | .auditDisabled => "'NoneType' object has no attribute 'entries'"
  | .unstorable parameter name =>
    s!"Error binding parameter {parameter}: type '{name}' is not supported"
  | .integerTooLargeToStore => "Python int too large to convert to SQLite INTEGER"
  | .unencodable row =>
    "'utf-8' codec can't encode " ++ unencodablePlace row ++ ": surrogates not allowed"
  | .columnCount named found =>
    s!"{named} columns passed, passed data had {found} columns"
  | .statement .key message => String.ofList (Text.quoted message)
  | .statement _ message => String.ofList message

/-- Whether a failure is one of the connection, which another attempt may not meet. -/
def isTransient (failure : Failure) : Bool :=
  failure.kind.isA .operational || failure.kind.isA .interface

end Failure

end QueryTemplate
