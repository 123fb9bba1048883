import ScimFilter.Command.Run
/-!
The program `scimfilter`: reads its arguments, and its standard input when no input argument
is given, runs the command line and writes what it shows.
-/

def main (args : List String) : IO UInt32 := do
  let needsStdin := match ScimFilter.Command.Invocation.read args with
    | .ok inv => inv.readsStdin
    | .error _ => false
  let stdin ← if needsStdin then (← IO.getStdin).readToEnd else pure ""
  let out := ScimFilter.Command.run args stdin
  IO.print out.stdout
  IO.eprint out.stderr
  return out.status.toUInt32
