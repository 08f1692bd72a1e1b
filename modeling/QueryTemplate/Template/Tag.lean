import QueryTemplate.Text.Basic

/-!
The five kinds of placeholder. A placeholder is a question mark and the longest run of tag
characters after it; the run has to be one of the five tags.
-/

namespace QueryTemplate

inductive Tag where
  | scalar
  | integer
  | number
  /-- The values of a list, or names with their values. -/
  | association
  | name
  deriving DecidableEq, Repr

namespace Tag

/-- The characters that may follow the question mark. -/
def isTagChar (c : Char) : Bool := c = 'a' || c = 'd' || c = 'f' || c = '#'

def run : Tag → Text
  | .scalar => []
  | .integer => ['d']
  | .number => ['f']
  | .association => ['a']
  | .name => ['#']

def ofRun? : Text → Option Tag
  | [] => some .scalar
  | ['d'] => some .integer
  | ['f'] => some .number
  | ['a'] => some .association
  | ['#'] => some .name
  | _ => none

theorem run_eq_of_ofRun? {s : Text} {tag : Tag} (h : ofRun? s = some tag) : s = tag.run := by
  unfold ofRun? at h
  split at h <;> cases h <;> rfl

def placeholder (run : Text) : Text := '?' :: run

end Tag

end QueryTemplate
