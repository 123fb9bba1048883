import ScimFilter.Command.Check
import ScimFilter.Command.Similar
import ScimFilter.Command.Spec
/-!
Reading the arguments of the command line `scimfilter`. The program takes a subcommand,
`check` or `tokens` (or `help`), then options and at most one input. An option is written
`--name value`, `--name=value`, `-x value`, `-xvalue` or `-x=value`; flags take no value and
short flags may be run together. `--` ends the options. Every option may be given once.

The arguments are read one at a time, left to right. An option that needs a value and has none
attached waits for the next argument; that argument is its value unless it is itself an option
or `--`. What an option is given is recorded, and its value checked against the possible
values, only when the next option, the input or the end is reached. An option that is not
known stops the reading at once; a waiting option is then recorded if it can be, and a problem
with it is not reported.

Problems are reported the way the usual argument parser of such programs words them, with a
usage line and, where a known name is close to a mistyped one, a tip.
-/

namespace ScimFilter.Command

def mainHelpOption : OptionSpec :=
  { long := "help", short := some 'h', help := "Print help" }

def mainVersionOption : OptionSpec :=
  { long := "version", short := some 'V', help := "Print version" }

/-- Why the arguments cannot be read. -/
inductive ArgumentError where
  /-- No subcommand has this name; `similar` are the names close to it. -/
  | unknownSubcommand (name : String) (similar : List String) (usage : String)
  /-- A subcommand's name given after `--`. -/
  | subcommandAfterEscape (name : String)
  /-- An argument that names no option, or an input too many: with the option it resembles,
  or an option of a subcommand (written `check --mode`), and whether to suggest passing it
  after `--`. -/
  | unexpectedArgument (arg : String) (similar : Option String) (elsewhere : Option String)
      (asValueTip : Bool) (usage : String)
  | invalidValue (option : OptionSpec) (value : String)
  | missingValue (option : OptionSpec)
  | repeated (option : OptionSpec) (usage : String)
  /-- A value given to a flag. -/
  | unexpectedValue (option : OptionSpec) (value : String) (usage : String)
  /-- No subcommand at all: the help is shown. -/
  | missingSubcommand

def tip (text : String) : String := "\n  tip: " ++ text

def possibleValues (o : OptionSpec) : String :=
  "\n  [possible values: " ++ ", ".intercalate o.valueNames ++ "]"

def ArgumentError.message : ArgumentError → String
  | .unknownSubcommand name similar usage =>
    let tips := match similar with
      | [] => ""
      | [s] => "\n" ++ tip ("a similar subcommand exists: '" ++ s ++ "'")
      | many => "\n" ++ tip ("some similar subcommands exist: " ++
          ", ".intercalate (many.map fun s => "'" ++ s ++ "'"))
    "error: unrecognized subcommand '" ++ name ++ "'" ++ tips ++ "\n\n" ++ usage ++ helpLine
  | .subcommandAfterEscape name =>
    "error: unexpected argument '" ++ name ++ "' found\n" ++
      tip ("subcommand '" ++ name ++ "' exists; to use it, remove the '--' before it") ++
      "\n\n" ++ mainUsage ++ helpLine
  | .unexpectedArgument arg similar elsewhere asValue usage =>
    let tips := match similar, elsewhere with
      | some s, _ => "\n" ++ tip ("a similar argument exists: '--" ++ s ++ "'")
      | none, some e => "\n" ++ tip ("'" ++ e ++ "' exists")
      | none, none => if asValue then "\n" ++ tip ("to pass '" ++ arg ++ "' as a value, use '-- " ++
          arg ++ "'") else ""
    "error: unexpected argument '" ++ arg ++ "' found" ++ tips ++ "\n\n" ++ usage ++ helpLine
  | .invalidValue o value =>
    let tips := match suggestName value o.valueNames with
      | some s => "\n" ++ tip ("a similar value exists: '" ++ s ++ "'")
      | none => ""
    (if value.isEmpty then
      "error: a value is required for '" ++ o.display ++ "' but none was supplied"
    else "error: invalid value '" ++ value ++ "' for '" ++ o.display ++ "'") ++
      possibleValues o ++ tips ++ helpLine
  | .missingValue o =>
    "error: a value is required for '" ++ o.display ++ "' but none was supplied" ++
      possibleValues o ++ helpLine
  | .repeated o usage =>
    "error: the argument '" ++ o.display ++ "' cannot be used multiple times\n\n" ++ usage ++
      helpLine
  | .unexpectedValue o value usage =>
    "error: unexpected value '" ++ value ++ "' for '" ++ o.display ++
      "' found; no more were expected\n\n" ++ usage ++ helpLine
  | .missingSubcommand => mainHelp

/-- Ways reading the arguments stops early. -/
inductive Stop where
  | help (text : String)
  | version
  | error (e : ArgumentError)

/-- An argument of a subcommand read so far: an option with its value (none for a flag, or
for an option still waiting for its value), or the input. -/
inductive Present where
  | option (o : OptionSpec) (value : Option String)
  | input (text : String)

def Present.isOption (o : OptionSpec) : Present → Bool
  | .option p _ => p.long == o.long
  | .input _ => false

/-- The state of reading a subcommand's arguments: the arguments recorded, in the order first
given; the option or input read but not yet recorded; and whether `--` has been seen. -/
structure Reading where
  present : List Present := []
  pending : Option Present := none
  escaped : Bool := false

namespace Reading

def waiting? (r : Reading) : Option OptionSpec :=
  match r.pending with
  | some (.option o none) => some o
  | _ => none

def hasInput (r : Reading) : Bool :=
  r.present.any (fun p => match p with | .input _ => true | _ => false) ||
    (match r.pending with | some (.input _) => true | _ => false)

/-- The usage line naming the arguments recorded, or the plain one if there are none. -/
def usage (r : Reading) (c : Subcommand) : String :=
  if r.present.isEmpty then c.usage
  else
    c.usageWith (r.present.filterMap fun p => match p with
      | .option o _ => some o
      | .input _ => none) r.hasInput

/-- Records an option with its value. An option given before is an error, and is dropped;
a value that is not possible is an error, though the option stays recorded. -/
def record (r : Reading) (c : Subcommand) (o : OptionSpec) (value : Option String) :
    Reading × Option ArgumentError :=
  if r.present.any (·.isOption o) then
    ({ r with present := r.present.filter (!·.isOption o) }, some (.repeated o c.usage))
  else
    let r := { r with present := r.present ++ [.option o value] }
    match value with
    | some v => if o.valueNames.contains v then (r, none) else (r, some (.invalidValue o v))
    | none => (r, none)

/-- Records what was read but not yet recorded. An option without its value is an error. -/
def resolve (r : Reading) (c : Subcommand) : Reading × Option ArgumentError :=
  match r.pending with
  | none => (r, none)
  | some (.option o none) => ({ r with pending := none }, some (.missingValue o))
  | some (.option o (some v)) => record { r with pending := none } c o (some v)
  | some (.input t) => ({ r with pending := none, present := r.present ++ [.input t] }, none)

/-- Records what was read, stopping on a problem. -/
def resolved (r : Reading) (c : Subcommand) : Except Stop Reading :=
  match r.resolve c with
  | (r', none) => .ok r'
  | (_, some e) => .error (.error e)

/-- Records an option given now, after what was read before it. -/
def give (r : Reading) (c : Subcommand) (o : OptionSpec) (value : Option String) :
    Except Stop Reading := do
  let r ← r.resolved c
  match r.record c o value with
  | (r', none) => .ok r'
  | (_, some e) => .error (.error e)

/-- Starts an option that waits for its value in the next argument. -/
def await (r : Reading) (c : Subcommand) (o : OptionSpec) : Except Stop Reading := do
  let r ← r.resolved c
  return { r with pending := some (.option o none) }

end Reading

/-- Reads a long option `--name` or `--name=value` (given without its dashes). An unknown name
stops the reading; the usage then names the arguments recorded and the known option the name
resembles, if any. -/
def readLong (c : Subcommand) (r : Reading) (body : String) : Except Stop Reading :=
  let name := (body.takeWhile (· != '=')).toString
  let attached : Option String :=
    if body.contains '=' then some ((body.dropWhile (· != '=')).drop 1).toString else none
  match c.options.find? (·.long == name) with
  | none =>
    let r := (r.resolve c).1
    let similar := suggestName name (c.options.map (·.long))
    let r := match similar.bind fun s => c.options.find? (·.long == s) with
      | some o => if r.present.any (·.isOption o) then r
        else { r with present := r.present ++ [Present.option o none] }
      | none => r
    .error (.error (.unexpectedArgument ("--" ++ name) similar none (similar.isNone && !r.escaped)
      (r.usage c)))
  | some o =>
    if o.takesValue then
      match attached with
      | some v => r.give c o (some v)
      | none => r.await c o
    else match attached with
      | some v =>
        let shown := { r with present := r.present ++ [Present.option o none], pending := none }
        .error (.error (.unexpectedValue o v (shown.usage c)))
      | none =>
        if o.long == "help" then do
          let _ ← r.resolved c
          .error (.help c.longHelp)
        else r.give c o none

/-- Reads a run of short options after its dash. An option that takes a value takes the rest of
the run (without a leading `=`), or else waits for the next argument. -/
def readShorts (c : Subcommand) (r : Reading) : List Char → Except Stop Reading
  | [] => .ok r
  | x :: more =>
    match c.options.find? (·.short == some x) with
    | none =>
      let r := (r.resolve c).1
      .error (.error (.unexpectedArgument ("-" ++ String.singleton x) none none (!r.escaped) c.usage))
    | some o =>
      if !o.takesValue then
        if o.long == "help" then do
          let _ ← r.resolved c
          .error (.help c.shortHelp)
        else do
          let r ← r.give c o none
          readShorts c r more
      else
        let attached := match more with
          | '=' :: v => some v
          | [] => none
          | v => some v
        match attached with
        | some v => r.give c o (some (String.ofList v))
        | none => r.await c o

/-- Reads an argument that is neither an option nor `--`: the value of a waiting option, or
else the input, which may be given once. -/
def readPlain (c : Subcommand) (r : Reading) (arg : String) : Except Stop Reading :=
  match r.waiting? with
  | some o => if r.escaped then readInput else .ok { r with pending := some (.option o (some arg)) }
  | none => readInput
where
  /-- Reads the argument as the input. -/
  readInput : Except Stop Reading :=
    if r.hasInput then
      let _ := (r.resolve c).1
      .error (.error (.unexpectedArgument arg none none false c.usage))
    else do
      let r ← r.resolved c
      return { r with pending := some (.input arg) }

def readArgument (c : Subcommand) (r : Reading) (arg : String) : Except Stop Reading :=
  if r.escaped then readPlain c r arg
  else if arg == "--" then .ok { r with escaped := true }
  else if arg.startsWith "--" then readLong c r (arg.drop 2).toString
  else if arg.startsWith "-" && arg != "-" then readShorts c r (arg.toList.drop 1)
  else readPlain c r arg

/-- Reads the arguments of a subcommand, then records what is still pending. -/
def readArguments (c : Subcommand) : Reading → List String → Except Stop Reading
  | r, [] => r.resolved c
  | r, arg :: rest => do
    let r ← readArgument c r arg
    readArguments c r rest

/-- The value an option was given, or its default. -/
def Reading.value (r : Reading) (o : OptionSpec) : String :=
  (r.present.findSome? fun p => match p with
    | .option q (some v) => if q.long == o.long then some v else none
    | _ => none).getD o.default

def Reading.has (r : Reading) (o : OptionSpec) : Bool :=
  r.present.any (·.isOption o)

def Reading.input (r : Reading) : Option String :=
  r.present.findSome? fun p => match p with
    | .input t => some t
    | _ => none

inductive Invocation where
  | check (opts : CheckOptions) (input : Option String)
  | tokens (version : Version) (input : Option String)

/-- The long help of the subcommands named by `help`, or why one of them is unknown. -/
def helpFor : List String → Stop
  | [] => .help mainHelp
  | name :: more =>
    let found : Option (String × String) :=
      if name == "check" then some (checkCommand.longHelp, checkCommand.usage)
      else if name == "tokens" then some (tokensCommand.longHelp, tokensCommand.usage)
      else if name == "help" then some (helpCommandHelp, "Usage: scimfilter help [COMMAND]...")
      else none
    match found, more with
    | none, _ => .error (.unknownSubcommand name [] mainUsage)
    | some (text, _), [] => .help text
    | some (_, usage), next :: _ => .error (.unknownSubcommand next [] usage)

/-- The option of a subcommand that a mistyped long name resembles, for a subcommand named
later on the command line; the one named first wins. -/
def elsewhereOption (name : String) (rest : List String) : Option String :=
  let found := subcommands.filterMap fun c =>
    match suggestName name (c.options.map (·.long)), rest.idxOf? c.name with
    | some s, some i => some (i, c.name ++ " --" ++ s)
    | _, _ => none
  (found.foldl (fun best x => match best with
    | some b => if x.1 < b.1 then some x else some b
    | none => some x) none).map (·.2)

/-- Reads an option of the program itself, given before any subcommand. -/
def readMainOption (arg : String) (rest : List String) : Stop :=
  if arg.startsWith "--" then
    let body := (arg.drop 2).toString
    let name := (body.takeWhile (· != '=')).toString
    let attached := body.contains '='
    let value := ((body.dropWhile (· != '=')).drop 1).toString
    match [mainHelpOption, mainVersionOption].find? (·.long == name) with
    | some o =>
      if attached then
        .error (.unexpectedValue o value ("Usage: scimfilter " ++ o.display ++ " <COMMAND>"))
      else if o.long == "help" then .help mainHelp
      else .version
    | none =>
      match suggestName name ["help", "version"] with
      | some s =>
        .error (.unexpectedArgument ("--" ++ name) (some s) none false
          ("Usage: scimfilter --" ++ s ++ " <COMMAND>"))
      | none =>
        .error (.unexpectedArgument ("--" ++ name) none (elsewhereOption name rest) false mainUsage)
  else
    match arg.toList.drop 1 with
    | 'h' :: _ => .help mainHelp
    | 'V' :: _ => .version
    | x :: _ => .error (.unexpectedArgument ("-" ++ String.singleton x) none none false mainUsage)
    | [] => .error (.unknownSubcommand arg [] mainUsage)

/-- Reads the whole command line (without the program name); `escaped` says `--` was seen. -/
def Invocation.readFrom (escaped : Bool) : List String → Except Stop Invocation
  | [] => .error (.error .missingSubcommand)
  | arg :: rest =>
    if !escaped && arg == "check" then do
      let r ← readArguments checkCommand {} rest
      let mode := (Mode.ofLabel? (r.value modeOption)).getD .filter
      let version := (Version.ofLabel? (r.value versionOption)).getD .v2
      let format := (Format.ofLabel? (r.value formatOption)).getD .text
      let opts : CheckOptions :=
        { mode := mode, version := version, format := format, pretty := r.has prettyOption,
          syntaxOnly := r.has syntaxOnlyOption }
      return .check opts r.input
    else if !escaped && arg == "tokens" then do
      let r ← readArguments tokensCommand {} rest
      return .tokens ((Version.ofLabel? (r.value versionOption)).getD .v2) r.input
    else if !escaped && arg == "help" then .error (helpFor rest)
    else if !escaped && arg == "--" then Invocation.readFrom true rest
    else if !escaped && arg.startsWith "-" && arg != "-" then .error (readMainOption arg rest)
    else if escaped && subcommandNames.contains arg then
      .error (.error (.subcommandAfterEscape arg))
    else .error (.error (.unknownSubcommand arg (similarNames arg subcommandNames) mainUsage))

def Invocation.read (args : List String) : Except Stop Invocation :=
  Invocation.readFrom false args

end ScimFilter.Command
