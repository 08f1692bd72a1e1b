import QueryTemplate.Connection.Step
import QueryTemplate.Http.Service
import QueryTemplate.Proofs.Template.Brace
import QueryTemplate.Proofs.Template.Verdict
import QueryTemplate.Proofs.Failure.Bind
import QueryTemplate.Proofs.Failure.Message
import QueryTemplate.Proofs.Template.Piece
import QueryTemplate.Proofs.Template.Spread
import QueryTemplate.Proofs.Template.Refusal
import QueryTemplate.Proofs.Template.Evaluation
import QueryTemplate.Proofs.Number.Overflow
import QueryTemplate.Proofs.Template.Binding
import QueryTemplate.Proofs.Template.Outcome
import QueryTemplate.Proofs.Sql.Plain
import QueryTemplate.Proofs.Sql.Quotation
import QueryTemplate.Proofs.Sql.Escaped
import QueryTemplate.Proofs.Number.Notation
import QueryTemplate.Proofs.Number.One
import QueryTemplate.Proofs.Template.Literal
import QueryTemplate.Proofs.Template.Lexing
import QueryTemplate.Proofs.Template.Seam
import QueryTemplate.Proofs.Template.Conditional
import QueryTemplate.Proofs.Template.Standing
import QueryTemplate.Proofs.Template.Marker
import QueryTemplate.Proofs.Template.Overlong
import QueryTemplate.Proofs.Connection.Call
import QueryTemplate.Proofs.Connection.Transaction
import QueryTemplate.Proofs.Connection.Trail
import QueryTemplate.Proofs.Connection.Transparency
import QueryTemplate.Proofs.Json.Document
import QueryTemplate.Proofs.Http.Payload
import QueryTemplate.Proofs.Http.Agreement
import QueryTemplate.Proofs.Http.Release
import QueryTemplate.Proofs.Http.Marked
import QueryTemplate.Proofs.Sql.Name
import QueryTemplate.Proofs.Sql.Pieces
import QueryTemplate.Proofs.Template.Association
import QueryTemplate.Proofs.Number.Exact
import QueryTemplate.Proofs.Number.Nearest
import QueryTemplate.Proofs.Number.Reading
import QueryTemplate.Proofs.Number.Short
import QueryTemplate.Proofs.Number.Spelling
import QueryTemplate.Proofs.Template.Integer
import QueryTemplate.Proofs.Template.Located
import QueryTemplate.Proofs.Template.Window
import QueryTemplate.Proofs.Template.Canonical
