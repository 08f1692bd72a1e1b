import QueryTemplate.Connection.Statement

/-!
The result of a statement as a table by columns. A column that holds fractions, or whole numbers
with gaps, becomes one of binary numbers; whole numbers that go into no word of 64 bits together
keep a column from it. In a column of numbers or of texts a missing cell is NaN; any other column
keeps its cells as they are.
-/

namespace QueryTemplate

open Number

/-- What the cells of a column have shown. -/
structure ColumnSurvey where
  missing : Bool := false
  truth : Bool := false
  whole : Bool := false
  fraction : Bool := false
  signed : Bool := false
  /-- Whether a whole number needs the highest bit of a word without one. -/
  unsigned : Bool := false
  deriving DecidableEq, Repr

namespace ColumnSurvey

/-- The survey after a whole number; none if it goes into no word together with those before. After
a missing cell whole numbers are not held to words. -/
def addWhole? (seen : ColumnSurvey) (n : Int) : Option ColumnSurvey :=
  let seen := { seen with whole := true }
  if seen.missing then some seen
  else if n < -Nat.pow 2 63 || Nat.pow 2 64 ≤ n then none
  else
    let seen := { seen with
      signed := seen.signed || n < 0
      unsigned := seen.unsigned || Nat.pow 2 63 ≤ n }
    if seen.signed && seen.unsigned then none else some seen

/-- Look at the cells in turn. The look ends without a survey at a cell that is neither a number
nor a truth value nor missing, and at a whole number that goes into no word. -/
def ofCells (seen : ColumnSurvey) : List Value → Except Failure (Option ColumnSurvey)
  | [] => .ok (some seen)
  | .null :: rest => ofCells { seen with missing := true } rest
  | .bool _ :: rest => ofCells { seen with truth := true } rest
  | .float _ :: rest => ofCells { seen with fraction := true } rest
  | .int n :: rest =>
    if (Binary64.ofInt n).isFinite then
      match seen.addWhole? n with
      | some seen => ofCells seen rest
      | none => .ok none
    else .error .integerTooLarge
  | _ :: _ => .ok none

def isBinary (seen : ColumnSurvey) : Bool :=
  !seen.truth && (seen.fraction || (seen.missing && seen.whole))

end ColumnSurvey

namespace Value

def isMissing : Value → Bool
  | .null | .float .nan => true
  | _ => false

/-- A cell in a column whose missing cells are NaN. -/
def markMissing : Value → Value
  | .null => .float .nan
  | v => v

def asBinary : Value → Value
  | .int n => .float (Binary64.ofInt n)
  | v => v.markMissing

end Value

/-- Whether a column is one of texts: it holds one, and nothing else but gaps. -/
def isTextColumn (cells : List Value) : Bool :=
  cells.any Value.isText && cells.all fun cell => cell.isText || cell.isMissing

def unifyColumn (cells : List Value) : Except Failure (List Value) := do
  let survey ← ColumnSurvey.ofCells {} cells
  if survey.any ColumnSurvey.isBinary then return cells.map Value.asBinary
  else if isTextColumn cells then return cells.map Value.markMissing
  else return cells

structure Table where
  columns : List String
  length : Nat
  values : List (List Value)

namespace ResultSet

/-- The cells of the column at a place; a row that is too short has none there. -/
def column (result : ResultSet) (place : Nat) : List Value :=
  result.rows.map fun row => row[place]?.getD .null

/-- The rows as a table. The widest row has to be as wide as the list of columns. -/
def table (result : ResultSet) : Except Failure Table :=
  let width := (result.rows.map List.length).foldl max 0
  if !result.rows.isEmpty && width ≠ result.columns.length then
    .error (.columnCount result.columns.length width)
  else do
    let places := List.range result.columns.length
    return ⟨result.columns, result.rows.length,
      ← places.mapM fun place => unifyColumn (result.column place)⟩

end ResultSet

end QueryTemplate
