import ScimFilter.Timestamp.Scan
import ScimFilter.Timestamp.Stamp
/-!
Message date texts (RFC 2822), read leniently: any run of Unicode blanks stands for folding
white space, an optional weekday is followed by a comma, the day has one or two digits, the
month is a three-letter name, and the year has at least two digits (two-digit years below 50
are in the 2000s, other two- and three-digit years count from 1900). The time is `hh:mm` with
optional `:ss`, and the zone a `±hhmm` offset or an obsolete zone name. Comments in
parentheses may follow. A weekday must agree with the date.
-/

namespace ScimFilter.Timestamp

/-- A year as written, with two- and three-digit years moved into the 1900s and 2000s. -/
def fullYear (digits : Nat) (y : Nat) : Nat :=
  if digits = 2 then (if y < 50 then y + 2000 else y + 1900)
  else if digits = 3 then y + 1900
  else y

def readRfc2822 (cs : List Char) : Option Stamp := do
  let cs := skipBlanks cs
  let (weekday, cs) ← match shortWeekday cs with
    | some (w, ',' :: rest) => some (some w, rest)
    | some _ => none
    | none => some (none, cs)
  let cs := skipBlanks cs
  let (day, cs) ← number 1 2 cs
  let cs ← space cs
  let (month, cs) ← shortMonth cs
  let cs ← space cs
  let (y, rest) ← numberAtLeast 2 cs
  let year := fullYear (cs.length - rest.length) y
  let cs ← space rest
  let (hour, cs) ← number 2 2 cs
  let cs ← literal ':' (skipBlanks cs)
  let cs := skipBlanks cs
  let (minute, cs) ← number 2 2 cs
  let (second, cs) ← match literal ':' (skipBlanks cs) with
    | some rest => number 2 2 rest
    | none => some (0, cs)
  let cs ← space cs
  let (offset, cs) ← zone cs
  let cs := skipComments cs
  if !cs.isEmpty then none
  return { year, month, day, hour, minute, second, weekday, offset }

/-- Whether a text is an RFC 2822 date and time of a supported instant. -/
def isRfc2822 (cs : List Char) : Bool :=
  (readRfc2822 cs).any Stamp.isInstant

end ScimFilter.Timestamp
