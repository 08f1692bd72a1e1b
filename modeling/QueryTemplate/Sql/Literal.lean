import QueryTemplate.Sql.Escape
import QueryTemplate.Value.Display
import QueryTemplate.Failure

/-!
Scalars as SQL literals.
-/

namespace QueryTemplate.Sql

/-- Turn the absence of a text into the failure that causes it: some integer is too long. -/
def orTooLong : Option Text → Except Failure Text
  | some s => .ok s
  | none => .error .integerTooLong

/-- A value as a literal: truth values as one and zero, nothing as `NULL`, texts quoted, and any
other value as its plain text. -/
def literal : Value → Except Failure Text
  | .bool b => .ok (if b then ['1'] else ['0'])
  | .null => .ok "NULL".toList
  | .text s => .ok (quoteText s)
  | v => orTooLong v.plain?

end QueryTemplate.Sql
