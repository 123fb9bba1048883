import ScimFilter.Command.Line
/-!
Running the command line: the arguments and the standard input give an exit status and the
texts written to standard output and standard error. Help and the version go to standard
output with status 0; argument errors go to standard error with status 2; errors of reading a
filter or path go to standard error as `Parse error: …` with status 1.
-/

namespace ScimFilter.Command

/-- What a run of the program shows. -/
structure Outcome where
  status : Nat
  stdout : String
  stderr : String
  deriving DecidableEq, Repr

/-- An error of reading a filter or path, as the program reports it. -/
def parseFailure (e : FilterError) : Outcome :=
  ⟨1, "", "Parse error: " ++ e.message ++ "\n"⟩

def Invocation.readsStdin : Invocation → Bool
  | .check _ input => input.isNone
  | .tokens _ input => input.isNone

/-- Runs the program on arguments (without the program name) and a standard input. -/
def run (args : List String) (stdin : String) : Outcome :=
  match Invocation.read args with
  | .error (.help text) => ⟨0, text, ""⟩
  | .error .version => ⟨0, versionText, ""⟩
  | .error (.error e) => ⟨2, "", e.message⟩
  | .ok (.check opts input) =>
    match check opts (input.getD stdin) with
    | .ok .valid => ⟨0, "Syntax is valid\n", ""⟩
    | .ok (.text s) => ⟨0, s ++ "\n", ""⟩
    | .ok (.json tree) => ⟨0, (if opts.pretty then tree.pretty 0 else tree.compact) ++ "\n", ""⟩
    | .error e => parseFailure e
  | .ok (.tokens version input) =>
    match tokenLines version (input.getD stdin) with
    | .ok lines => ⟨0, String.join (lines.map (· ++ "\n")), ""⟩
    | .error e => parseFailure e

end ScimFilter.Command
