/-!
The ten comparison operators of a filter, each written as a two-letter word. Words match
exactly, in lower case. Only `pr` (present) takes no value to compare with.
-/

namespace ScimFilter

inductive Operator where
  | equal
  | notEqual
  | contains
  | startsWith
  | endsWith
  | greaterThan
  | lessThan
  | greaterOrEqual
  | lessOrEqual
  | present
  deriving DecidableEq, Repr, Inhabited

namespace Operator

def word : Operator → String
  | equal => "eq"
  | notEqual => "ne"
  | contains => "co"
  | startsWith => "sw"
  | endsWith => "ew"
  | greaterThan => "gt"
  | lessThan => "lt"
  | greaterOrEqual => "ge"
  | lessOrEqual => "le"
  | present => "pr"

def all : List Operator :=
  [present, equal, notEqual, contains, startsWith, endsWith, greaterThan, lessThan,
    greaterOrEqual, lessOrEqual]

def ofWord? (w : String) : Option Operator :=
  all.find? (·.word == w)

/-- Whether the operator tests presence and so takes no value. -/
def isPresent (op : Operator) : Bool :=
  op == present

theorem ofWord?_word (op : Operator) : ofWord? op.word = some op := by
  cases op <;> rfl

end Operator

end ScimFilter
