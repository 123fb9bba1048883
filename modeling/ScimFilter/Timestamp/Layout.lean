import ScimFilter.Timestamp.Scan
import ScimFilter.Timestamp.Stamp
import ScimFilter.Timestamp.Rfc3339
import ScimFilter.Timestamp.Rfc2822
/-!
Date and time layouts: sequences of pieces, each of which reads a part of the text. A numeric
field skips blanks before its digits and takes one or two digits; a year takes up to four
digits, or any number after an explicit sign. A blank piece skips any run of blanks, also an
empty one. A fraction piece reads `.digits` when a point stands there. The whole text must be
read.

A text looks like a date and time when, trimmed of blanks at both ends, it is an RFC 3339 or
RFC 2822 date and time, a local date and time in one of the date-time layouts, or a date in
the date layout.
-/

namespace ScimFilter.Timestamp

inductive Piece where
  /-- Exactly this character. -/
  | text (c : Char)
  /-- Any run of blanks, possibly empty. -/
  | blank
  | year
  | month
  | day
  | hour
  | minute
  | second
  /-- An optional `.` with up to nine kept digits of a second. -/
  | fraction
  deriving DecidableEq, Repr

/-- A year: a sign and any number of digits, or up to four digits. -/
def signedYear (cs : List Char) : Option (Int × List Char) :=
  match cs with
  | '-' :: rest => (numberAtLeast 1 rest).map fun (v, r) => (-(v : Int), r)
  | '+' :: rest => (numberAtLeast 1 rest).map fun (v, r) => ((v : Int), r)
  | _ => (number 1 4 cs).map fun (v, r) => ((v : Int), r)

/-- Reads one piece into the fields. -/
def Piece.read (p : Piece) (s : Stamp) (cs : List Char) : Option (Stamp × List Char) :=
  match p with
  | .text c => (literal c cs).map (s, ·)
  | .blank => some (s, skipBlanks cs)
  | .year => (signedYear (skipBlanks cs)).map fun (v, r) => ({ s with year := v }, r)
  | .month => (number 1 2 (skipBlanks cs)).map fun (v, r) => ({ s with month := v }, r)
  | .day => (number 1 2 (skipBlanks cs)).map fun (v, r) => ({ s with day := v }, r)
  | .hour => (number 1 2 (skipBlanks cs)).map fun (v, r) => ({ s with hour := v }, r)
  | .minute => (number 1 2 (skipBlanks cs)).map fun (v, r) => ({ s with minute := v }, r)
  | .second => (number 1 2 (skipBlanks cs)).map fun (v, r) => ({ s with second := v }, r)
  | .fraction =>
    match cs with
    | '.' :: rest => (Timestamp.fraction rest).map fun (v, r) => ({ s with nanosecond := v }, r)
    | _ => some (s, cs)

def readLayout (layout : List Piece) (cs : List Char) : Option Stamp :=
  match layout.foldl (fun acc p => acc.bind fun (s, r) => p.read s r) (some ({}, cs)) with
  | some (s, []) => some s
  | _ => none

/-- The local date-time layouts: date and time joined by `T` or blanks, with or without a
fraction of a second, and date and time to the minute. -/
def dateTimeLayouts : List (List Piece) :=
  let date := [Piece.year, .text '-', .month, .text '-', .day]
  let time := [Piece.hour, .text ':', .minute, .text ':', .second]
  [date ++ .text 'T' :: time ++ [.fraction], date ++ .text 'T' :: time,
    date ++ .blank :: time ++ [.fraction], date ++ .blank :: time,
    date ++ [.text 'T', .hour, .text ':', .minute]]

def dateLayout : List Piece := [.year, .text '-', .month, .text '-', .day]

/-- Whether a text, trimmed of blanks, reads as a date and time or as a date. -/
def looksLikeDateTime (s : String) : Bool :=
  let cs := Text.trimBlank s.toList
  isRfc3339 cs || isRfc2822 cs ||
    dateTimeLayouts.any (fun l => (readLayout l cs).any Stamp.isLocal) ||
    (readLayout dateLayout cs).any Stamp.isDate

end ScimFilter.Timestamp
