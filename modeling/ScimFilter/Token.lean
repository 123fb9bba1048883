/-!
Tokens of the filter and path grammars. A token carries its kind, its text, the byte offset
where the text starts in the scanned input, and its index in the token list. The kind is a
parameter, so that a lexer with rules of its own can name its kinds as it likes.
-/

namespace ScimFilter

/-- The lexical categories of filters and paths. The bracket kinds exist only in the
grammar of version 2. -/
inductive TokenKind where
  | whitespace
  | number
  | string
  | dot
  | colon
  | slash
  | openParen
  | closeParen
  | name
  | openBracket
  | closeBracket
  deriving DecidableEq, Repr, Inhabited

namespace TokenKind

/-- The lower-case label of a kind, used in messages and listings. -/
def label : TokenKind → String
  | whitespace => "whitespace"
  | number => "number"
  | string => "string"
  | dot => "dot"
  | colon => "colon"
  | slash => "slash"
  | openParen => "open_paren"
  | closeParen => "close_paren"
  | name => "name"
  | openBracket => "open_bracket"
  | closeBracket => "close_bracket"

/-- All kinds, in rule order. -/
def all : List TokenKind :=
  [whitespace, number, string, dot, colon, slash, openParen, closeParen, name, openBracket,
    closeBracket]

def ofLabel? (s : String) : Option TokenKind :=
  all.find? (·.label == s)

theorem ofLabel?_label (k : TokenKind) : ofLabel? k.label = some k := by
  cases k <;> rfl

end TokenKind

/-- A scanned piece of text. -/
structure Token (κ : Type) where
  kind : κ
  text : String
  /-- Byte offset of the text in the scanned input. -/
  offset : Nat
  /-- Index of the token in the token list. -/
  position : Nat
  deriving DecidableEq, Repr

namespace Token

/-- A name token spelled exactly as the word. -/
def isName (t : Token TokenKind) (word : String) : Bool :=
  t.kind == .name && t.text == word

def isAny {κ : Type} [BEq κ] (t : Token κ) (kinds : List κ) : Bool :=
  kinds.contains t.kind

end Token

/-- The grammar versions. Version 1 has neither value filters nor paths. -/
inductive Version where
  | v1
  | v2
  deriving DecidableEq, Repr, Inhabited

namespace Version

/-- Whether the version knows value filters (and with them brackets and paths). -/
def supportsValueFilters : Version → Bool
  | v1 => false
  | v2 => true

def label : Version → String
  | v1 => "v1"
  | v2 => "v2"

def ofLabel? : String → Option Version
  | "v1" => some v1
  | "v2" => some v2
  | _ => none

end Version

/-- What a parse starts from: a filter expression, or the path of a change. -/
inductive Mode where
  | filter
  | path
  deriving DecidableEq, Repr, Inhabited

namespace Mode

def label : Mode → String
  | filter => "filter"
  | path => "path"

def ofLabel? : String → Option Mode
  | "filter" => some filter
  | "path" => some path
  | _ => none

end Mode

end ScimFilter
