import ScimFilter.Filter.Read
import ScimFilter.Filter.Tree
import ScimFilter.Text.Printable
/-!
The two commands of the command line. `check` reads a filter or path and answers with its
canonical text, its JSON tree, or only that it is valid. `tokens` lists the tokens of a text,
one line each: index, byte offset, kind and escaped text in fixed columns. Both first drop
the carriage returns and line feeds at the end of the input.
-/

namespace ScimFilter.Command

/-- How a successful check is reported. -/
inductive Format where
  | text
  | json
  deriving DecidableEq, Repr

def Format.ofLabel? : String → Option Format
  | "text" => some .text
  | "json" => some .json
  | _ => none

/-- What `check` is asked to do. -/
structure CheckOptions where
  mode : Mode := .filter
  version : Version := .v2
  format : Format := .text
  /-- JSON is written one member per line. -/
  pretty : Bool := false
  /-- Only say whether the input is valid. -/
  syntaxOnly : Bool := false
  deriving DecidableEq, Repr

inductive CheckOutcome where
  | valid
  | text (s : String)
  | json (tree : Json)

def trimLineEnds (s : String) : String :=
  String.ofList (s.toList.reverse.dropWhile (fun c => c == '\r' || c == '\n')).reverse

def check (opts : CheckOptions) (input : String) : Except FilterError CheckOutcome := do
  let reader ← Reader.new opts.mode opts.version
  let root ← reader.read (trimLineEnds input)
  if opts.syntaxOnly then return .valid
  return match opts.format with
    | .text => .text root.render
    | .json => .json root.toJson

def padLeft (width : Nat) (s : String) : String :=
  String.ofList (List.replicate (width - s.length) ' ') ++ s

def padRight (width : Nat) (s : String) : String :=
  s ++ String.ofList (List.replicate (width - s.length) ' ')

/-- The listing line of a token. -/
def tokenLine (t : Token TokenKind) : String :=
  padLeft 4 (toString t.position) ++ " " ++ padLeft 5 (toString t.offset) ++ "  " ++
    padRight 13 t.kind.label ++ " " ++ Text.quoteEscaped t.text

def tokenLines (version : Version) (input : String) : Except FilterError (List String) :=
  (tokenize version (trimLineEnds input)).map (·.map tokenLine)

end ScimFilter.Command
