import ScimFilter.Token
import ScimFilter.Lexer.Scan
import ScimFilter.Filter.AttributePath
/-!
Why reading a filter or path fails. Each failure stops the reading; the first problem from
the left is the one reported. Unknown tokens and unexpected tokens point at a byte offset of
the input.
-/

namespace ScimFilter

/-- What the grammar expected where it found something else. -/
inductive Expected where
  | attributePath
  | comparisonOperator
  | compareValue
  | path
  | endOfInput
  | token (kind : TokenKind)
  deriving DecidableEq, Repr

def Expected.label : Expected → String
  | attributePath => "attribute path"
  | comparisonOperator => "comparison operator"
  | compareValue => "compare value"
  | path => "path"
  | endOfInput => "end of input"
  | token kind => kind.label

/-- What the grammar found: a token's text, or the end of the input. -/
inductive Found where
  | token (text : String)
  | endOfInput
  deriving DecidableEq, Repr

def Found.describe : Found → String
  | token text => "'" ++ text ++ "'"
  | endOfInput => "end of string"

inductive ConfigurationError where
  /-- Paths exist only in version 2. -/
  | pathNeedsVersion2
  /-- A lexer rule's pattern does not compile. -/
  | invalidPattern (source : String)
  deriving DecidableEq, Repr

def ConfigurationError.message : ConfigurationError → String
  | pathNeedsVersion2 => "Path mode is available only in SCIM version 2"
  | invalidPattern source => "invalid token pattern '" ++ source ++ "'"

inductive FilterError where
  /-- No token rule matches at `offset`. -/
  | unknownToken (offset : Nat) (preview : String)
  /-- The tokens do not follow the grammar at `offset`. -/
  | unexpected (offset : Nat) (expected : Expected) (found : Found)
  | attributePath (e : AttributePathError)
  /-- A value filter holds another value filter. -/
  | valueFilterNesting
  | configuration (e : ConfigurationError)
  deriving DecidableEq, Repr

namespace FilterError

def message : FilterError → String
  | unknownToken offset preview =>
    "Unknown token at offset " ++ toString offset ++ ": " ++ preview ++ "..."
  | unexpected offset expected found =>
    "line 0, col " ++ toString offset ++ "... Error: Expected \x7b" ++ expected.label ++
      "\x7d, got " ++ found.describe
  | attributePath e => "Attribute path failed to parse: " ++ e.message
  | valueFilterNesting => "Value filter failed to parse: nested value filters are not allowed"
  | configuration e => "Invalid configuration: " ++ e.message

/-- The byte offset the error points at, for the errors that have one. -/
def offset? : FilterError → Option Nat
  | unknownToken offset _ => some offset
  | unexpected offset _ _ => some offset
  | _ => none

def ofUnknownToken (e : Lexer.UnknownToken) : FilterError :=
  unknownToken e.offset e.preview

end FilterError

end ScimFilter
