import QueryTemplate.Text.Basic

/-!
Escapes inside quoted SQL. Seven characters are written as a backslash and a letter or sign; every
other character stands for itself. Names are escaped in the same way and then quoted with
back-quotes, where a back-quote is written twice.
-/

namespace QueryTemplate.Sql

/-- The sign that stands for a character after a backslash. -/
def escapeSign? : Char → Option Char
  | '\\' => some '\\'
  | '\x00' => some '0'
  | '\n' => some 'n'
  | '\r' => some 'r'
  | '\'' => some '\''
  | '"' => some '"'
  | '\x1a' => some 'Z'
  | _ => none

def escapeChar (c : Char) : Text :=
  match escapeSign? c with
  | some sign => ['\\', sign]
  | none => [c]

def escape (s : Text) : Text := s.flatMap escapeChar

/-- A character between back-quotes. -/
def doubleBackquote (c : Char) : Text := if c = '`' then ['`', '`'] else [c]

def quoteName (name : Text) : Text :=
  '`' :: (escape name).flatMap doubleBackquote ++ ['`']

def quoteText (s : Text) : Text := '\'' :: escape s ++ ['\'']

@[simp]
theorem escape_cons (c : Char) (s : Text) : escape (c :: s) = escapeChar c ++ escape s := rfl

end QueryTemplate.Sql
