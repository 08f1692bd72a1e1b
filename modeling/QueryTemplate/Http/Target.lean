import QueryTemplate.Json.Reader

/-!
The target of a request: its path without scheme, host, query and fragment, with the escapes of its
characters undone.
-/

namespace QueryTemplate.Http

namespace Target

def clean (s : Text) : Text :=
  (s.dropWhile fun c => c.toNat ≤ 0x20).filter fun c => c != '\t' && c != '\n' && c != '\r'

def isSchemeChar (c : Char) : Bool := c.isAlphanum || c = '+' || c = '-' || c = '.'

def dropScheme (s : Text) : Text :=
  match s.takeWhile (· != ':'), s.dropWhile (· != ':') with
  | first :: scheme, ':' :: rest =>
    if first.isAlpha && scheme.all isSchemeChar then rest else s
  | _, _ => s

def dropHost : Text → Text
  | '/' :: '/' :: rest => rest.dropWhile fun c => c != '/' && c != '?' && c != '#'
  | s => s

def rawPath (s : Text) : Text :=
  (dropHost (dropScheme (clean s))).takeWhile fun c => c != '?' && c != '#'

/-- A path with its escapes undone. An escape gives a byte; bytes beyond ASCII are no part of any
route. -/
def unescape : Text → Text
  | '%' :: a :: b :: rest =>
    match Json.hexValue? a, Json.hexValue? b with
    | some high, some low => Char.ofNat (high * 16 + low) :: unescape rest
    | _, _ => '%' :: unescape (a :: b :: rest)
  | c :: rest => c :: unescape rest
  | [] => []

/-- A host as it is sent: in small letters up to its first percent sign, without a user that has no
name, and without a number of zero or none after its colon. -/
def sentHost (s : Text) : Text :=
  let host := match Text.splitLast? '@' s with
    | some (user, host) => if (user.takeWhile (· != ':')).isEmpty then host else s
    | none => s
  let number := (host.dropWhile (· != ':')).drop 1
  let kept := if number.all (· = '0') then host.takeWhile (· != ':') else host
  Text.toLower (kept.takeWhile (· != '%')) ++ kept.dropWhile (· != '%')

/-- A path as it is sent: once more without the white space that does not belong to it, and with
what looks like a host in the form of one. -/
def sent (s : Text) : Text :=
  match clean s with
  | '/' :: '/' :: rest =>
    '/' :: '/' :: sentHost (rest.takeWhile (· != '/')) ++ rest.dropWhile (· != '/')
  | s => s

/-- The path that is looked up, without the slashes at its beginning. A target is taken apart
twice before its path is sent. -/
def path (s : Text) : Text := (unescape (sent (rawPath (rawPath s)))).dropWhile (· = '/')

end Target

end QueryTemplate.Http
