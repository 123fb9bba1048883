import ScimFilter.Decimal.Notation
/-!
JSON values and their text. Objects keep their members in the order given; the projections
of this library list members with their keys in byte order. Numbers are integers, or doubles
written in the JSON style of `Decimal.Style.json`. Strings escape the quote, the backslash and the
control characters; all else is written as it is.

Two layouts: compact, with no blank at all, and pretty, with one member or element per line,
indented by two spaces per level and `": "` after each key.
-/

namespace ScimFilter

inductive Json where
  | null
  | bool (b : Bool)
  /-- An integer, written with its digits only. -/
  | integer (n : Int)
  /-- A double, written in the JSON style of doubles. -/
  | float (x : Float)
  | string (s : String)
  | array (items : List Json)
  | object (members : List (String × Json))
  deriving Inhabited

namespace Json

/-- Lower-case hexadecimal digits of `n`, at least `width` of them. -/
def hexDigits (width n : Nat) : List Char :=
  let ds := Nat.toDigits 16 n
  List.replicate (width - ds.length) '0' ++ ds

/-- The escaped form of one character inside a JSON string. -/
def escapeChar (c : Char) : List Char :=
  if c = '"' then ['\\', '"']
  else if c = '\\' then ['\\', '\\']
  else if c = '\n' then ['\\', 'n']
  else if c = '\r' then ['\\', 'r']
  else if c = '\t' then ['\\', 't']
  else if c = '\x08' then ['\\', 'b']
  else if c = '\x0c' then ['\\', 'f']
  else if c.toNat < 0x20 then ['\\', 'u'] ++ hexDigits 4 c.toNat
  else [c]

def quote (s : String) : String :=
  String.ofList ('"' :: s.toList.flatMap escapeChar ++ ['"'])

/-- The text of a scalar value; arrays and objects are written by the layouts below. -/
def scalarText : Json → String
  | null => "null"
  | bool b => if b then "true" else "false"
  | integer n => toString n
  | float x => Decimal.Style.json.float x
  | string s => quote s
  | array _ => "[]"
  | object _ => "\x7b\x7d"

mutual

/-- Compact text: no blank between any two parts. -/
def compact : Json → String
  | array items => "[" ++ compactItems items ++ "]"
  | object members => "\x7b" ++ compactMembers members ++ "\x7d"
  | v => scalarText v

def compactItems : List Json → String
  | [] => ""
  | [v] => compact v
  | v :: rest => compact v ++ "," ++ compactItems rest

def compactMembers : List (String × Json) → String
  | [] => ""
  | [(k, v)] => quote k ++ ":" ++ compact v
  | (k, v) :: rest => quote k ++ ":" ++ compact v ++ "," ++ compactMembers rest

end

def indent (level : Nat) : String :=
  String.ofList (List.replicate (2 * level) ' ')

mutual

/-- Pretty text at a nesting level: one element or member per line. -/
def pretty (level : Nat) : Json → String
  | array [] => "[]"
  | array items => "[\n" ++ prettyItems (level + 1) items ++ "\n" ++ indent level ++ "]"
  | object [] => "\x7b\x7d"
  | object members =>
    "\x7b\n" ++ prettyMembers (level + 1) members ++ "\n" ++ indent level ++ "\x7d"
  | v => scalarText v

def prettyItems (level : Nat) : List Json → String
  | [] => ""
  | [v] => indent level ++ pretty level v
  | v :: rest => indent level ++ pretty level v ++ ",\n" ++ prettyItems level rest

def prettyMembers (level : Nat) : List (String × Json) → String
  | [] => ""
  | [(k, v)] => indent level ++ quote k ++ ": " ++ pretty level v
  | (k, v) :: rest =>
    indent level ++ quote k ++ ": " ++ pretty level v ++ ",\n" ++ prettyMembers level rest

end

mutual

/-- Equality of JSON values. Integers and doubles are numbers of different kinds; doubles
compare as doubles, so `0.0` equals `-0.0`. Objects compare member by member, which is
equality of maps for members listed once each in key order, as every projection of this
library lists them. -/
def beq : Json → Json → Bool
  | null, null => true
  | bool a, bool b => a == b
  | integer m, integer n => m == n
  | float x, float y => x == y
  | string s, string t => s == t
  | array items, array items' => beqItems items items'
  | object members, object members' => beqMembers members members'
  | _, _ => false

def beqItems : List Json → List Json → Bool
  | [], [] => true
  | v :: rest, v' :: rest' => beq v v' && beqItems rest rest'
  | _, _ => false

def beqMembers : List (String × Json) → List (String × Json) → Bool
  | [], [] => true
  | (k, v) :: rest, (k', v') :: rest' => k == k' && beq v v' && beqMembers rest rest'
  | _, _ => false

end

instance : BEq Json := ⟨beq⟩

/-- A string, or `null` when there is none. -/
def ofOption (s : Option String) : Json :=
  match s with
  | some s => string s
  | none => null

end Json

end ScimFilter
