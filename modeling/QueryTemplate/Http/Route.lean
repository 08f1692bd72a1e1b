import QueryTemplate.Http.Target
import QueryTemplate.Text.Capital

/-!
Routes: what can be asked for, under which paths, and with which verbs. A path with doubled slashes
that would name something without them has moved there.
-/

namespace QueryTemplate.Http

inductive Route where
  | compile
  | execute
  /-- A file of an installation. There are none. -/
  | file
  deriving DecidableEq, Repr

inductive Verb where
  | get
  | head
  | options
  | post
  deriving DecidableEq, Repr

namespace Verb

/-- The verb that a text names; case does not count. -/
def ofText? (s : Text) : Option Verb :=
  let name := Text.toUpper s
  if name = "GET".toList then some .get
  else if name = "HEAD".toList then some .head
  else if name = "OPTIONS".toList then some .options
  else if name = "POST".toList then some .post
  else none

end Verb

namespace Route

/-- Whether a path below the folder of files names one: it does not begin with a slash, and no
line ends in it after its first character. -/
def isFileName : Text → Bool
  | [] => false
  | c :: rest => c != '/' && !rest.contains '\n'

def ofPath? (path : Text) : Option Route :=
  if path = "query/build".toList then some .compile
  else if path = "query/execute".toList then some .execute
  else if ((Json.after? "static/".toList path).any isFileName) then some .file
  else none

/-- Whether a route can be asked with a verb. Every route describes itself to `OPTIONS`. -/
def accepts : Route → Verb → Bool
  | _, .options => true
  | .compile, verb | .execute, verb => verb = .post
  | .file, verb => verb = .get || verb = .head

def find? (path : Text) (verb : Verb) : Option Route :=
  (ofPath? path).filter fun route => route.accepts verb

end Route

def mergeSlashes : Text → Text
  | '/' :: '/' :: rest => '/' :: mergeSlashes rest
  | c :: rest => c :: mergeSlashes rest
  | [] => []

inductive Destination where
  | found (route : Route) (verb : Verb)
  | moved
  | nowhere
  deriving DecidableEq, Repr

def Destination.of (target verb : Text) : Destination :=
  let path := Target.path target
  match Verb.ofText? verb with
  | none => .nowhere
  | some verb =>
    match Route.find? path verb with
    | some route => .found route verb
    | none => if (Route.find? (mergeSlashes path) verb).isSome then .moved else .nowhere

end QueryTemplate.Http
