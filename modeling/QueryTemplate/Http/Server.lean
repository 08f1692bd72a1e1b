import QueryTemplate.Connection.Installation
import QueryTemplate.Http.Route

/-!
What the service is given to work with, besides what its sessions are given: what finds the
destination of a request, what tells from the type of a body whether it is JSON, and the levels that
there are to read one. `usual` does what is commonly found there; nothing else depends on it.
-/

namespace QueryTemplate.Http

structure Server extends Installation where
  destination : (target verb : Text) → Destination
  isJson : (contentType : Text) → Bool
  stack : Json.Stack

namespace ContentType

def isPadding (c : Char) : Bool := c = ' ' || c = '\t'

/-- Whether a content type is one of JSON. Parameters of the type do not count. -/
def isJson (contentType : Text) : Bool :=
  let type := Text.toLower (Text.trim isPadding (contentType.takeWhile (· != ';')))
  type = "application/json".toList ||
    ("application/".toList.isPrefixOf type && "+json".toList.isSuffixOf type)

end ContentType

def Server.usual (stack : Json.Stack) : Server where
  toInstallation := .usual
  destination := Destination.of
  isJson := ContentType.isJson
  stack := stack

end QueryTemplate.Http
