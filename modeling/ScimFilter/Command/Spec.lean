/-!
The command line `scimfilter` as data: its subcommands `check` and `tokens`, their options, and
the texts that describe them. Each subcommand has a short help (`-h`), one line per option, and a
long help (`--help`, or `scimfilter help <COMMAND>`), where each option takes a paragraph and
its possible values are explained.

Usage lines come in two forms: the plain one, `scimfilter check [OPTIONS] [INPUT]`, and one that
names the arguments already given, `scimfilter check --mode <MODE> [INPUT]`, which errors show
once an argument has been read.
-/

namespace ScimFilter.Command

structure OptionSpec where
  long : String
  short : Option Char := none
  /-- The name of the option's value; flags have none. -/
  valueName : Option String := none
  /-- The values the option accepts, each with what it means. -/
  values : List (String × String) := []
  /-- The value when the option is not given. -/
  default : String := ""
  help : String
  deriving DecidableEq, Repr

namespace OptionSpec

def takesValue (o : OptionSpec) : Bool :=
  o.valueName.isSome

def valueNames (o : OptionSpec) : List String :=
  o.values.map (·.1)

/-- How an option is named in messages: `--mode <MODE>`. -/
def display (o : OptionSpec) : String :=
  "--" ++ o.long ++ (match o.valueName with
    | some v => " <" ++ v ++ ">"
    | none => "")

/-- The left column of the option in a help: its short and long names. -/
def helpName (o : OptionSpec) : String :=
  (match o.short with
    | some s => "  -" ++ String.singleton s ++ ", "
    | none => "      ") ++ o.display

end OptionSpec

/-- A subcommand: its name, what it does, and its options, `--help` last. -/
structure Subcommand where
  name : String
  about : String
  options : List OptionSpec

def modeOption : OptionSpec :=
  { long := "mode", short := some 'm', valueName := some "MODE",
    values := [("filter", "`filter` query parameter"), ("path", "PATCH operation `path`")],
    default := "filter", help := "Parse a filter or a PATCH path" }

def versionOption : OptionSpec :=
  { long := "scim-version", valueName := some "SCIM_VERSION",
    values := [("v1", "SCIM 1.1: no value filters, no path mode"), ("v2", "SCIM 2.0 (RFC 7644)")],
    default := "v2", help := "SCIM protocol version" }

def formatOption : OptionSpec :=
  { long := "format", short := some 'f', valueName := some "FORMAT",
    values := [("text", "Canonical filter text"), ("json", "JSON rendering of the syntax tree")],
    default := "text", help := "Output format" }

def prettyOption : OptionSpec :=
  { long := "pretty", short := some 'p', help := "Pretty-print JSON output" }

def syntaxOnlyOption : OptionSpec :=
  { long := "syntax-only", help := "Only validate syntax" }

/-- The help flag of a subcommand; its text depends on which help shows it. -/
def helpOption : OptionSpec :=
  { long := "help", short := some 'h', help := "Print help" }

def checkCommand : Subcommand :=
  { name := "check", about := "Parse a filter or path and print its canonical form",
    options := [modeOption, versionOption, formatOption, prettyOption, syntaxOnlyOption,
      helpOption] }

def tokensCommand : Subcommand :=
  { name := "tokens", about := "Print the tokens of a filter or path",
    options := [versionOption, helpOption] }

def subcommands : List Subcommand := [checkCommand, tokensCommand]

/-- The names a first argument may take to choose a subcommand, `help` included. -/
def subcommandNames : List String := ["check", "tokens", "help"]

/-- The name of the program and its version. -/
def versionText : String := "scimfilter 0.1.0\n"

def mainUsage : String := "Usage: scimfilter <COMMAND>"

def helpLine : String := "\n\nFor more information, try '--help'.\n"

def mainHelp : String :=
  "Parse and validate SCIM (RFC 7644) filters and attribute paths\n\n" ++ mainUsage ++
  "\n\nCommands:\n" ++
  "  check   Parse a filter or path and print its canonical form\n" ++
  "  tokens  Print the tokens of a filter or path\n" ++
  "  help    Print this message or the help of the given subcommand(s)\n\n" ++
  "Options:\n  -h, --help     Print help\n  -V, --version  Print version\n"

def helpCommandHelp : String :=
  "Print this message or the help of the given subcommand(s)\n\n" ++
  "Usage: scimfilter help [COMMAND]...\n\n" ++
  "Arguments:\n  [COMMAND]...  Print help for the subcommand(s)\n"

def inputHelp : String := "The filter or path (reads from stdin if not provided)"

namespace Subcommand

def usage (c : Subcommand) : String :=
  "Usage: scimfilter " ++ c.name ++ " [OPTIONS] [INPUT]"

/-- The usage line that names the options given, in the order first given, and the input,
written `<INPUT>` once given. -/
def usageWith (c : Subcommand) (options : List OptionSpec) (input : Bool) : String :=
  "Usage: scimfilter " ++ c.name ++ String.join (options.map (" " ++ ·.display)) ++
    (if input then " <INPUT>" else " [INPUT]")

/-- The text of an option in a help: `--help` says where the other help is. -/
def optionHelp (long : Bool) (o : OptionSpec) : String :=
  if o.long != "help" then o.help
  else if long then "Print help (see a summary with '-h')"
  else "Print help (see more with '--help')"

/-- The short help: one line per option, its text in a column. -/
def shortHelp (c : Subcommand) : String :=
  let width := (c.options.map fun o => o.helpName.length).foldl max 0
  let line (o : OptionSpec) : String :=
    let extra := if o.values.isEmpty then "" else
      " [default: " ++ o.default ++ "] [possible values: " ++ ", ".intercalate o.valueNames ++
        "]"
    o.helpName ++ String.ofList (List.replicate (width - o.helpName.length + 2) ' ') ++
      optionHelp false o ++ extra ++ "\n"
  c.about ++ "\n\n" ++ c.usage ++ "\n\nArguments:\n  [INPUT]  " ++ inputHelp ++
    "\n\nOptions:\n" ++ String.join (c.options.map line)

def indent : String := "          "

/-- The explanation of an option's possible values in the long help, names aligned. -/
def possibleValuesBlock (o : OptionSpec) : String :=
  let width := (o.valueNames.map String.length).foldl max 0
  let line (v : String × String) : String :=
    indent ++ "- " ++ v.1 ++ ":" ++ String.ofList (List.replicate (width - v.1.length + 1) ' ') ++
      v.2 ++ "\n"
  "\n" ++ indent ++ "Possible values:\n" ++ String.join (o.values.map line) ++ indent ++ "\n" ++
    indent ++ "[default: " ++ o.default ++ "]\n"

/-- The long help: a paragraph per option, separated by blank lines. -/
def longHelp (c : Subcommand) : String :=
  let entry (o : OptionSpec) : String :=
    o.helpName ++ "\n" ++ indent ++ optionHelp true o ++ "\n" ++
      (if o.values.isEmpty then "" else possibleValuesBlock o)
  c.about ++ "\n\n" ++ c.usage ++ "\n\nArguments:\n  [INPUT]\n" ++ indent ++ inputHelp ++
    "\n\nOptions:\n" ++ "\n".intercalate (c.options.map entry)

end Subcommand

end ScimFilter.Command
