import QueryTemplate.Failure
import QueryTemplate.Value.Basic

/-!
What a statement gives: a failure, rows, or nothing but its being done; and its rows as records,
whose cells are as they came.
-/

namespace QueryTemplate

structure ResultSet where
  columns : List String
  rows : List (List Value)

inductive Outcome where
  | failed (failure : Failure)
  | returned (result : ResultSet)
  | done

abbrev Record := List (String × Value)

/-- Put a cell under a name. A name that is there keeps its place and gets the new cell. -/
def Record.insert (record : Record) (name : String) (cell : Value) : Record :=
  if record.any fun entry => entry.1 = name then
    record.map fun entry => if entry.1 = name then (name, cell) else entry
  else record ++ [(name, cell)]

namespace ResultSet

/-- The rows as records. Of columns with one name the last one counts. -/
def records (result : ResultSet) : List Record :=
  result.rows.map fun row =>
    (result.columns.zip row).foldl (fun record entry => record.insert entry.1 entry.2) []

end ResultSet

namespace Outcome

/-- What a statement gives as records; one that returns no rows gives none. -/
def records : Outcome → Except Failure (List Record)
  | .failed failure => .error failure
  | .returned result => .ok result.records
  | .done => .ok []

end Outcome

end QueryTemplate
