import ScimFilter.Timestamp.Scan
import ScimFilter.Timestamp.Stamp
/-!
Internet date and time texts (RFC 3339): `YYYY-MM-DD`, `T`, `t` or a space, `hh:mm:ss`, an
optional fraction of any length, and `Z` or an offset `±hh:mm` of at most 23:59.
-/

namespace ScimFilter.Timestamp

def readRfc3339 (cs : List Char) : Option Stamp := do
  let (year, cs) ← number 4 4 cs
  let cs ← literal '-' cs
  let (month, cs) ← number 2 2 cs
  let cs ← literal '-' cs
  let (day, cs) ← number 2 2 cs
  let cs ← match cs with
    | 'T' :: rest | 't' :: rest | ' ' :: rest => some rest
    | _ => none
  let (hour, cs) ← number 2 2 cs
  let cs ← literal ':' cs
  let (minute, cs) ← number 2 2 cs
  let cs ← literal ':' cs
  let (second, cs) ← number 2 2 cs
  let (nanosecond, cs) ← match cs with
    | '.' :: rest => fraction rest
    | _ => some (0, cs)
  let (offset, cs) ← offsetWithColon cs
  if offset.natAbs > (23 * 60 + 59) * 60 || !cs.isEmpty then none
  return { year, month, day, hour, minute, second, nanosecond, offset }

/-- Whether a text is an RFC 3339 date and time of a supported instant. -/
def isRfc3339 (cs : List Char) : Bool :=
  (readRfc3339 cs).any Stamp.isInstant

end ScimFilter.Timestamp
