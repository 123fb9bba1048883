import ScimFilter.Token
/-!
A read-only cursor over a token list. It keeps two counters: the committed position, and a
speculative peek offset relative to it. Peeking never moves the position. Moving on with
`moveNext`, `reset` or a skip sets the peek offset back to 1, so the next peek sees the token
after the current one; `resetPosition` moves the position and keeps the peek offset.
-/

namespace ScimFilter

/-- A cursor over tokens: a committed position and a peek offset. -/
structure Cursor (κ : Type) where
  tokens : Array (Token κ)
  position : Nat := 0
  peekOffset : Nat := 1

namespace Cursor

variable {κ : Type} [BEq κ]

def new (tokens : Array (Token κ)) : Cursor κ := { tokens }

/-- The current token, none once the cursor has passed the last one. -/
def token (c : Cursor κ) : Option (Token κ) := c.tokens[c.position]?

def lookAhead (c : Cursor κ) : Option (Token κ) := c.tokens[c.position + 1]?

def isAtEnd (c : Cursor κ) : Bool := c.tokens.size ≤ c.position

/-- Advances by one token unless at the end; answers whether a current token remains. -/
def moveNext (c : Cursor κ) : Cursor κ × Bool :=
  let c' := { c with
    position := if c.position < c.tokens.size then c.position + 1 else c.position,
    peekOffset := 1 }
  (c', c'.token.isSome)

def reset (c : Cursor κ) : Cursor κ := { c with position := 0, peekOffset := 1 }

/-- Moves to a position, at most the end; the peek offset stays. -/
def resetPosition (c : Cursor κ) (n : Nat) : Cursor κ :=
  { c with position := min n c.tokens.size }

def resetPeek (c : Cursor κ) : Cursor κ := { c with peekOffset := 1 }

/-- Advances past every token whose kind is one of `kinds`. -/
def skipWhile (c : Cursor κ) (kinds : List κ) : Cursor κ :=
  match h : c.token with
  | some t =>
    if t.isAny kinds then
      have : c.tokens.size - (c.moveNext.1.position) < c.tokens.size - c.position := by
        simp only [token] at h
        have := (Array.getElem?_eq_some_iff.mp h).1
        simp only [moveNext]; split <;> omega
      (c.moveNext.1).skipWhile kinds
    else c
  | none => c
termination_by c.tokens.size - c.position

/-- Advances until the current token has kind `kind`, or to the end. -/
def skipUntil (c : Cursor κ) (kind : κ) : Cursor κ :=
  match h : c.token with
  | some t =>
    if t.kind == kind then c
    else
      have : c.tokens.size - (c.moveNext.1.position) < c.tokens.size - c.position := by
        simp only [token] at h
        have := (Array.getElem?_eq_some_iff.mp h).1
        simp only [moveNext]; split <;> omega
      (c.moveNext.1).skipUntil kind
  | none => c
termination_by c.tokens.size - c.position

/-- The token after the last peeked one, starting with the token after the current one. -/
def peek (c : Cursor κ) : Cursor κ × Option (Token κ) :=
  ({ c with peekOffset := c.peekOffset + 1 }, c.tokens[c.position + c.peekOffset]?)

/-- Peeks past tokens whose kind is one of `kinds` and gives the first one that is not; the
peek offset stays advanced. -/
def peekWhile (c : Cursor κ) (kinds : List κ) : Cursor κ × Option (Token κ) :=
  match h : c.tokens[c.position + c.peekOffset]? with
  | some t =>
    if t.isAny kinds then
      have : c.tokens.size - (c.position + (c.peekOffset + 1)) <
          c.tokens.size - (c.position + c.peekOffset) := by
        have := (Array.getElem?_eq_some_iff.mp h).1
        omega
      peekWhile { c with peekOffset := c.peekOffset + 1 } kinds
    else ({ c with peekOffset := c.peekOffset + 1 }, some t)
  | none => ({ c with peekOffset := c.peekOffset + 1 }, none)
termination_by c.tokens.size - (c.position + c.peekOffset)

/-- Peeks one token and sets the peek offset back. -/
def glimpse (c : Cursor κ) : Cursor κ × Option (Token κ) :=
  let (c', t) := c.peek
  (c'.resetPeek, t)

def isToken (c : Cursor κ) (kind : κ) : Bool := c.token.any (·.kind == kind)

def isNextToken (c : Cursor κ) (kind : κ) : Bool := c.lookAhead.any (·.kind == kind)

def isTokenAny (c : Cursor κ) (kinds : List κ) : Bool := c.token.any (·.isAny kinds)

def isNextTokenAny (c : Cursor κ) (kinds : List κ) : Bool := c.lookAhead.any (·.isAny kinds)

end Cursor

end ScimFilter
