import ScimFilter.Pattern.CharSet
/-!
The syntax tree of a compiled pattern. Literals, `.`, escapes and bracketed classes all become
character sets, so a pattern is built from sets, zero-width assertions, sequence, prioritised
choice, counted repetition and groups. The order of `alt` and the greediness of `many` fix
which match wins when several are possible.
-/

namespace ScimFilter.Pattern

/-- Which characters count as word characters for a boundary assertion. -/
inductive WordKind where
  | unicode
  | ascii
  deriving DecidableEq, Repr

/-- A zero-width assertion about the position between two characters. -/
inductive Look where
  /-- The start of the text. -/
  | textStart
  /-- The end of the text. -/
  | textEnd
  /-- The start of a line; with `crlf`, a carriage return also ends a line. -/
  | lineStart (crlf : Bool)
  /-- The end of a line; with `crlf`, a carriage return also ends a line. -/
  | lineEnd (crlf : Bool)
  /-- A word character on exactly one side. -/
  | boundary (w : WordKind)
  /-- Word characters on both sides or on neither. -/
  | notBoundary (w : WordKind)
  /-- A word character after and none before. -/
  | wordStart (w : WordKind)
  /-- A word character before and none after. -/
  | wordEnd (w : WordKind)
  /-- No word character before. -/
  | wordStartHalf (w : WordKind)
  /-- No word character after. -/
  | wordEndHalf (w : WordKind)
  deriving DecidableEq, Repr

inductive Regex where
  /-- Matches the empty text. -/
  | empty
  /-- Matches one character of the set. -/
  | chars (set : CharSet)
  /-- Matches the empty text where the assertion holds. -/
  | look (l : Look)
  /-- Matches the first pattern, then the second. -/
  | seq (first second : Regex)
  /-- Matches the first pattern, or else the second; the first is preferred. -/
  | alt (first second : Regex)
  /-- Matches the body at least `min` times and at most `max` times (no bound if `none`);
  greedy repetition prefers more copies, lazy repetition fewer. -/
  | many (body : Regex) (min : Nat) (max : Option Nat) (greedy : Bool)
  /-- A group, capturing or not: matches what its body matches. Groups are kept because they
  decide how the pattern is simplified before it is compiled, and a capturing group costs the
  compiled automaton two states. -/
  | group (capturing : Bool) (body : Regex)
  deriving Repr

namespace Regex

/-- The sequence of a list of patterns; the empty list matches the empty text. -/
def seqAll : List Regex → Regex
  | [] => empty
  | [p] => p
  | p :: ps => seq p (seqAll ps)

/-- The prioritised choice among a non-empty list of patterns, earlier ones preferred. -/
def altAll : List Regex → Regex
  | [] => empty
  | [p] => p
  | p :: ps => alt p (altAll ps)

end Regex

end ScimFilter.Pattern
