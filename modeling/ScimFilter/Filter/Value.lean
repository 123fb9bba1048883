import ScimFilter.Decimal.Notation
import ScimFilter.Timestamp.Layout
/-!
The literal on the right of a comparison: `null`, `true` or `false`, a number held as a
double, or the text between the quotes of a string, escapes left as written. A string also
carries a hint, computed from its text, whether it looks like a date and time.
-/

namespace ScimFilter

inductive CompareValue where
  | null
  | bool (b : Bool)
  | number (x : Float)
  | string (text : String)
  deriving BEq, Inhabited

namespace CompareValue

def asBool? : CompareValue → Option Bool
  | bool b => some b
  | _ => none

def asFloat? : CompareValue → Option Float
  | number x => some x
  | _ => none

def asString? : CompareValue → Option String
  | string s => some s
  | _ => none

def isNull : CompareValue → Bool
  | null => true
  | _ => false

/-- A string whose text, trimmed, reads as a date, or a date and time. -/
def isDateTime : CompareValue → Bool
  | string s => Timestamp.looksLikeDateTime s
  | _ => false

/-- The literal as written in a filter; numbers in plain decimal notation. -/
def render : CompareValue → String
  | null => "null"
  | bool b => if b then "true" else "false"
  | number x => Decimal.Style.plain.float x
  | string s => "\"" ++ s ++ "\""

end CompareValue

end ScimFilter
