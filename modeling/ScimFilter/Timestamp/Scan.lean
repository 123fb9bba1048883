import ScimFilter.Text.Ranges
import ScimFilter.Decimal.Read
/-!
Pieces of date and time texts. Each reader takes the start of a text and gives the value read
with the rest of the text, or nothing when the text does not start with such a piece. Digits are
ASCII digits; blanks are Unicode blanks; names of months, weekdays and zones are matched
without regard to ASCII case.
-/

namespace ScimFilter.Timestamp

open ScimFilter.Text

/-- What reading the start of a text gives: a value and the rest. -/
abbrev Reading (α : Type) := Option (α × List Char)

/-- At least `min` and at most `max` digits, as many as stand there. -/
def number (min max : Nat) (cs : List Char) : Reading Nat :=
  let ds := (cs.take max).takeWhile Char.isDigit
  if ds.length < min then none else some (Decimal.digitsValue ds, cs.drop ds.length)

/-- At least `min` digits, as many as stand there. -/
def numberAtLeast (min : Nat) (cs : List Char) : Reading Nat :=
  number min cs.length cs

def literal (c : Char) : List Char → Option (List Char)
  | d :: rest => if d = c then some rest else none
  | [] => none

def skipBlanks (cs : List Char) : List Char :=
  cs.dropWhile isBlank

/-- At least one blank, and all the blanks that follow it. -/
def space (cs : List Char) : Option (List Char) :=
  match cs with
  | c :: _ => if isBlank c then some (skipBlanks cs) else none
  | [] => none

/-- The digits of a fraction of a second, after its point: nine are kept as nanoseconds,
further digits are skipped. -/
def fraction (cs : List Char) : Option (Nat × List Char) := do
  let (v, rest) ← number 1 9 cs
  let kept := cs.length - rest.length
  return (v * Nat.pow 10 (9 - kept), rest.dropWhile Char.isDigit)

/-- Two digits of hours, an optional colon, two digits of minutes (first digit 0 to 5), as
seconds with the given sign. -/
def hoursMinutes (colon negative : Bool) (cs : List Char) : Option (Int × List Char) := do
  let (h, cs) ← number 2 2 cs
  let cs ← if colon then literal ':' cs else some cs
  let (m, cs) ← match cs with
    | m1 :: m2 :: rest =>
      if '0' ≤ m1 ∧ m1 ≤ '5' ∧ m2.isDigit then some (Decimal.digitsValue [m1, m2], rest) else none
    | _ => none
  let seconds : Int := h * 3600 + m * 60
  return (if negative then -seconds else seconds, cs)

/-- A zone offset as in RFC 3339: `Z`, or a sign (`+`, `-` or U+2212), hours, a colon and
minutes. -/
def offsetWithColon : List Char → Reading Int
  | 'Z' :: rest | 'z' :: rest => some (0, rest)
  | '+' :: rest => hoursMinutes true false rest
  | '-' :: rest | '−' :: rest => hoursMinutes true true rest
  | _ => none

def lowerThree (cs : List Char) : Option (List Char × List Char) :=
  match cs with
  | a :: b :: c :: rest => some ([a.toLower, b.toLower, c.toLower], rest)
  | _ => none

/-- A weekday abbreviated to three letters; Monday is 0. -/
def shortWeekday (cs : List Char) : Option (Nat × List Char) := do
  let (name, rest) ← lowerThree cs
  let names := ["mon", "tue", "wed", "thu", "fri", "sat", "sun"].map String.toList
  let i := names.idxOf name
  if i < 7 then some (i, rest) else none

/-- A month abbreviated to three letters; January is 1. -/
def shortMonth (cs : List Char) : Option (Nat × List Char) := do
  let (name, rest) ← lowerThree cs
  let names := ["jan", "feb", "mar", "apr", "may", "jun", "jul", "aug", "sep", "oct", "nov",
    "dec"].map String.toList
  let i := names.idxOf name
  if i < 12 then some (i + 1, rest) else none

/-- The offset in hours of a zone name of RFC 2822: universal time, the North American zones,
and a single military letter other than `j`, which counts as universal time. -/
def zoneNameHours (name : List Char) : Option Int :=
  match name.map Char.toLower with
  | ['g', 'm', 't'] | ['u', 't'] | ['z'] => some 0
  | ['e', 'd', 't'] => some (-4)
  | ['e', 's', 't'] | ['c', 'd', 't'] => some (-5)
  | ['c', 's', 't'] | ['m', 'd', 't'] => some (-6)
  | ['m', 's', 't'] | ['p', 'd', 't'] => some (-7)
  | ['p', 's', 't'] => some (-8)
  | [c] => if c = 'j' then none else some 0
  | _ => none

/-- A zone as in RFC 2822: a name, or a sign (`+` or `-`) and four digits. -/
def zone (cs : List Char) : Reading Int :=
  let name := cs.takeWhile Char.isAlpha
  if name.isEmpty then
    match cs with
    | '+' :: rest => hoursMinutes false false rest
    | '-' :: rest => hoursMinutes false true rest
    | _ => none
  else (zoneNameHours name).map fun h => (h * 3600, cs.drop name.length)

/-- The rest of a comment after its opening parenthesis, at a nesting depth; a backslash
escapes the next character. -/
def commentRest (depth : Nat) : List Char → Option (List Char)
  | [] => none
  | '\\' :: [] => none
  | '\\' :: _ :: rest => commentRest depth rest
  | ')' :: rest => if depth ≤ 1 then some rest else commentRest (depth - 1) rest
  | '(' :: rest => commentRest (depth + 1) rest
  | _ :: rest => commentRest depth rest

theorem length_commentRest_lt {d : Nat} {cs r : List Char} (h : commentRest d cs = some r) :
    r.length < cs.length := by
  fun_induction commentRest d cs <;> simp_all <;> omega

/-- Blanks and then a parenthesized comment. -/
def comment (cs : List Char) : Option (List Char) :=
  match skipBlanks cs with
  | '(' :: rest => commentRest 1 rest
  | _ => none

theorem length_comment_lt {cs r : List Char} (h : comment cs = some r) : r.length < cs.length := by
  have hs : (skipBlanks cs).length ≤ cs.length := (List.dropWhile_suffix isBlank).length_le
  unfold comment at h
  split at h
  · next rest heq =>
    have := length_commentRest_lt h
    rw [heq] at hs
    simp at hs
    omega
  · simp at h

def skipComments (cs : List Char) : List Char :=
  match h : comment cs with
  | some rest =>
    have := length_comment_lt h
    skipComments rest
  | none => cs
termination_by cs.length

end ScimFilter.Timestamp
