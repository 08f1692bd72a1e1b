import QueryTemplate.Connection.Audit
import QueryTemplate.Connection.Table
import QueryTemplate.Connection.Trace
import QueryTemplate.Connection.Url

/-!
What sessions are given to work with: what reaches the database, what makes tables, and the store of
the trail. `usual` does what is commonly found there; nothing else depends on it.
-/

namespace QueryTemplate

/-- What surrounds the statements of a block: what is seen when the block is entered and left, and
whether that fails. -/
structure Scope where
  enter : List EngineEvent × Except Failure Unit
  leave : (succeeded : Bool) → List EngineEvent × Except Failure Unit

structure Installation where
  /-- The backend that a URL names. -/
  backend : Text → Except Failure Text
  /-- Whether an engine can be made for a URL. -/
  create : Text → EngineOptions → Except Failure Unit
  transaction : Scope
  connection : Scope
  /-- The rows of a statement that returns none. -/
  rowless : Except Failure ResultSet
  tabulate : ResultSet → Except Failure Table
  store : Audit.Store

namespace Scope

/-- A transaction is begun, and committed or rolled back. -/
def transaction : Scope where
  enter := ([.begun], .ok ())
  leave succeeded := ([if succeeded then .committed else .rolledBack], .ok ())

/-- A connection is opened, and closed whatever happens. -/
def connection : Scope where
  enter := ([.connected], .ok ())
  leave _ := ([.closed], .ok ())

end Scope

namespace Installation

def closedResult : Failure :=
  .statement .closedResult
    "This result object does not return rows. It has been closed automatically.".toList

def usual : Installation where
  backend := Url.backend
  create _ _ := .ok ()
  transaction := .transaction
  connection := .connection
  rowless := .error closedResult
  tabulate := ResultSet.table
  store := .usual

def supported : List Text := ["mariadb".toList, "mysql".toList]

/-- The backend that a URL names, if it is one that templates are quoted for. -/
def supportedBackend (installation : Installation) (url : Text) : Except Failure Text := do
  let name ← installation.backend url
  if supported.contains name then return name else throw (.unsupportedBackend name)

end Installation

end QueryTemplate
