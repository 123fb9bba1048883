import ScimFilter.Text.Ranges
import ScimFilter.Lexer.Scan
/-!
The token rules of filters and paths, in the order they are tried: whitespace, number,
string, dot, colon, slash, the two parentheses, name, and for version 2 the two brackets.

A number is a JSON number (RFC 8259 §6). A number that is only `0` or `-0` and is followed by
a digit is refused, so that `01` falls through to the name rule. A string is a double-quoted
text in which a backslash escapes any character but a line feed; the quotes and the escapes
stay in the token's text.
-/

namespace ScimFilter.Lexer

open ScimFilter.Text

/-- The length of the run of characters at the start of the text that satisfy `p`. -/
def runLength (p : Char → Bool) (cs : List Char) : Nat :=
  (cs.takeWhile p).length

/-- Length of an optional fraction `.digits` at the start of the text. -/
def fractionLength : List Char → Nat
  | '.' :: rest =>
    let d := runLength Char.isDigit rest
    if 0 < d then d + 1 else 0
  | _ => 0

/-- Length of the digits of an exponent, after its optional sign. -/
def exponentDigitsLength (cs : List Char) : Nat :=
  let sign := match cs with
    | '+' :: _ | '-' :: _ => 1
    | _ => 0
  let d := runLength Char.isDigit (cs.drop sign)
  if 0 < d then sign + d else 0

/-- Length of an optional exponent `e±digits` at the start of the text. -/
def exponentLength : List Char → Nat
  | 'e' :: rest | 'E' :: rest =>
    let n := exponentDigitsLength rest
    if 0 < n then n + 1 else 0
  | _ => 0

/-- Length of the integer part of a number without its sign: a lone `0`, or digits that
start with `1` to `9`. -/
def integerLength : List Char → Nat
  | '0' :: _ => 1
  | c :: rest => if c.isDigit then runLength Char.isDigit rest + 1 else 0
  | [] => 0

/-- Length of the longest JSON number at the start of the text, `0` when there is none. -/
def jsonNumberLength (cs : List Char) : Nat :=
  let sign := if cs.head? = some '-' then 1 else 0
  let body := cs.drop sign
  let i := integerLength body
  if i = 0 then 0 else
  let f := fractionLength (body.drop i)
  sign + i + f + exponentLength (body.drop (i + f))

/-- A number of only `0` or `-0` directly followed by a digit is refused. -/
def leadingZeroRefused (cs : List Char) (n : Nat) : Bool :=
  (cs.take n == ['0'] || cs.take n == ['-', '0']) && ((cs.drop n).head?.any Char.isDigit)

/-- Length of a string literal after its opening quote, closing quote included. -/
def stringTailLength : List Char → Option Nat
  | [] => none
  | '"' :: _ => some 1
  | '\\' :: c :: rest => if c = '\n' then none else (stringTailLength rest).map (· + 2)
  | '\\' :: [] => none
  | _ :: rest => (stringTailLength rest).map (· + 1)

/-- Length of a string literal at the start of the text. -/
def stringLength : List Char → Option Nat
  | '"' :: rest => (stringTailLength rest).map (· + 1)
  | _ => none

/-- Letters, digits, hyphens and underscores make names. -/
def isNameChar (c : Char) : Bool :=
  c.isAlphanum || c == '-' || c == '_'

def single (kind : TokenKind) (c : Char) : Rule TokenKind :=
  ⟨kind, fun cs => if cs.head? = some c then some 1 else none⟩

def whitespaceRule : Rule TokenKind := ⟨.whitespace, fun cs => some (runLength isBlank cs)⟩

def numberRule : Rule TokenKind :=
  ⟨.number, fun cs =>
    let n := jsonNumberLength cs
    if leadingZeroRefused cs n then none else some n⟩

def stringRule : Rule TokenKind := ⟨.string, stringLength⟩

def nameRule : Rule TokenKind := ⟨.name, fun cs => some (runLength isNameChar cs)⟩

/-- The rules of a version, in the order they are tried. -/
def scimRules (version : Version) : List (Rule TokenKind) :=
  [whitespaceRule, numberRule, stringRule, single .dot '.', single .colon ':',
    single .slash '/', single .openParen '(', single .closeParen ')', nameRule] ++
  (if version.supportsValueFilters then
    [single .openBracket '[', single .closeBracket ']']
  else [])

def scimScan (version : Version) (input : String) : Except UnknownToken (List (Token TokenKind)) :=
  scan (scimRules version) input

end ScimFilter.Lexer
