import ScimFilter.Cursor
import ScimFilter.Filter.Grammar
/-!
The descent of `Filter/Grammar` over one token cursor that all productions share. A
production reads the current token and moves the cursor on; the two look-aheads peek with it.
Looking for `WS or` and `WS and` glimpses the token after the current one, and looking for a
value path peeks past names and dots and then sets the peek offset back.

Every step states where it leaves the cursor: a look-ahead `Beside` it, the attribute path loop
`Onward` from it, and every production and every single-token step `Ahead` of it. The measure
`7 · (tokens left) + level` therefore falls on every call of the descent.
-/

namespace ScimFilter.CursorGrammar

open Grammar (Context pathKinds pathStopKinds lookaheadKinds)

abbrev TokenCursor := Cursor TokenKind

/-- The number of tokens from the current one on. -/
def remaining (c : TokenCursor) : Nat := c.tokens.size - c.position

/-- A cursor over the same tokens at the same position: only its peek offset may differ. -/
abbrev Beside (c : TokenCursor) :=
  { d : TokenCursor // d.tokens = c.tokens ∧ d.position = c.position }

/-- A cursor over the same tokens, at or past `c`. -/
abbrev Onward (c : TokenCursor) :=
  { d : TokenCursor // d.tokens = c.tokens ∧ c.position ≤ d.position }

/-- A cursor over the same tokens, past `c` and not past the end. -/
abbrev Ahead (c : TokenCursor) :=
  { d : TokenCursor // d.tokens = c.tokens ∧ c.position < d.position ∧ d.position ≤ c.tokens.size }

def Ahead.trans {c : TokenCursor} (d : Ahead c) (e : Ahead d.1) : Ahead c :=
  ⟨e.1, e.2.1.trans d.2.1, Nat.lt_trans d.2.2.1 e.2.2.1,
    Nat.le_trans e.2.2.2 (Nat.le_of_eq (congrArg Array.size d.2.1))⟩

def Onward.ahead {c : TokenCursor} (d : Onward c) (e : Ahead d.1) : Ahead c :=
  ⟨e.1, e.2.1.trans d.2.1, Nat.lt_of_le_of_lt d.2.2 e.2.2.1,
    Nat.le_trans e.2.2.2 (Nat.le_of_eq (congrArg Array.size d.2.1))⟩

def Beside.ahead {c : TokenCursor} (d : Beside c) (e : Ahead d.1) : Ahead c :=
  ⟨e.1, e.2.1.trans d.2.1, Nat.lt_of_le_of_lt (Nat.le_of_eq d.2.2.symm) e.2.2.1,
    Nat.le_trans e.2.2.2 (Nat.le_of_eq (congrArg Array.size d.2.1))⟩

/-- A cursor beside one ahead of `c` is ahead of `c`. -/
def Ahead.beside {c : TokenCursor} (d : Ahead c) (e : Beside d.1) : Ahead c :=
  ⟨e.1, e.2.1.trans d.2.1, Nat.lt_of_lt_of_le d.2.2.1 (Nat.le_of_eq e.2.2.symm),
    Nat.le_trans (Nat.le_of_eq e.2.2) d.2.2.2⟩

theorem Ahead.remaining_lt {c : TokenCursor} (d : Ahead c) : remaining d.1 < remaining c := by
  obtain ⟨d, htok, hlt, hle⟩ := d
  simp only [remaining, htok]
  omega

/-- A call on a cursor ahead lowers the measure of the descent, whatever the two levels. -/
theorem Ahead.measure_lt {c : TokenCursor} (d : Ahead c) {k l : Nat} (hk : k < 7) :
    7 * remaining d.1 + k < 7 * remaining c + l := by
  have := d.remaining_lt
  omega

theorem Beside.remaining_eq {c : TokenCursor} (d : Beside c) : remaining d.1 = remaining c := by
  obtain ⟨d, htok, hpos⟩ := d
  simp only [remaining, htok, hpos]

/-- Moving on from a current token. -/
def advance (c : TokenCursor) (h : c.position < c.tokens.size) : Ahead c :=
  have hpos : c.moveNext.1.position = c.position + 1 := if_pos h
  ⟨c.moveNext.1, rfl, by rw [hpos]; exact Nat.lt_succ_self _, by rw [hpos]; exact h⟩

theorem position_lt_of_token {c : TokenCursor} {t : Token TokenKind} (h : c.token = some t) :
    c.position < c.tokens.size :=
  (Array.getElem?_eq_some_iff.mp h).1

theorem peekWhile_beside (c : TokenCursor) (kinds : List TokenKind) :
    (c.peekWhile kinds).1.tokens = c.tokens ∧ (c.peekWhile kinds).1.position = c.position := by
  fun_induction Cursor.peekWhile c kinds with
  | case1 c t ht hany _ ih => exact ih
  | case2 => exact ⟨rfl, rfl⟩
  | case3 => exact ⟨rfl, rfl⟩

/-! ### Single steps -/

/-- The error at the current token, or at the end of the input. -/
def syntaxError (ctx : Context) (c : TokenCursor) (expected : Expected) : FilterError :=
  match c.token with
  | some t => .unexpected t.offset expected (.token t.text)
  | none => .unexpected ctx.inputLength expected .endOfInput

def expect (ctx : Context) (kind : TokenKind) (c : TokenCursor) : Except FilterError (Ahead c) :=
  match h : c.token with
  | some t =>
    if t.kind == kind then .ok (advance c (position_lt_of_token h))
    else .error (syntaxError ctx c (.token kind))
  | none => .error (syntaxError ctx c (.token kind))

/-- Reads the current token as `read` reads the list of that one token, and moves on; `read`
is an operator or a literal of the token-list grammar. -/
def single (read : (ts : Grammar.Tokens) → Except FilterError (α × Grammar.Shorter ts))
    (ctx : Context) (expected : Expected) (c : TokenCursor) : Except FilterError (α × Ahead c) :=
  match h : c.token with
  | some t =>
    match read [t] with
    | .ok (a, _) => .ok (a, advance c (position_lt_of_token h))
    | .error e => .error e
  | none => .error (syntaxError ctx c expected)

/-- The loop of an attribute path: appends the text of each path token to `raw` and moves on,
up to whitespace, `[` or the end. A token of another kind is an error. -/
def pathLoop (ctx : Context) (c : TokenCursor) (raw : String) :
    Except FilterError (String × Onward c) :=
  match h : c.token with
  | none => .ok (raw, ⟨c, rfl, Nat.le_refl _⟩)
  | some t =>
    if t.isAny pathStopKinds then .ok (raw, ⟨c, rfl, Nat.le_refl _⟩)
    else if !t.isAny pathKinds then .error (syntaxError ctx c .attributePath)
    else
      let d := advance c (position_lt_of_token h)
      match pathLoop ctx d.1 (raw ++ t.text) with
      | .ok (raw', e) => .ok (raw', ⟨e.1, e.2.1.trans d.2.1, Nat.le_trans (Nat.le_of_lt d.2.2.1) e.2.2⟩)
      | .error e => .error e
termination_by remaining c
decreasing_by exact Ahead.remaining_lt _

/-- Reads an attribute path; an empty one is an error at the cursor. -/
def attributePath (ctx : Context) (c : TokenCursor) :
    Except FilterError (AttributePath × Onward c) := do
  let (raw, d) ← pathLoop ctx c ""
  if raw.isEmpty then throw (syntaxError ctx d.1 .attributePath)
  match AttributePath.parse raw with
  | .ok p => return (p, d)
  | .error e => throw (.attributePath e)

/-- Reads `attr WS op` and, unless the operator is `pr`, `WS value`. -/
def comparison (ctx : Context) (c : TokenCursor) : Except FilterError (Comparison × Ahead c) := do
  let (attr, d) ← attributePath ctx c
  let e := d.ahead (← expect ctx .whitespace d.1)
  let (op, f) ← single (Grammar.operator ctx) ctx .comparisonOperator e.1
  if op.isPresent then return (⟨attr, op, none⟩, e.trans f)
  let g := (e.trans f).trans (← expect ctx .whitespace f.1)
  let (v, h) ← single (Grammar.compareValue ctx) ctx .compareValue g.1
  return (⟨attr, op, some v⟩, g.trans h)

/-- Whether whitespace and then the name `word` come next: the current token is tested, the
next one glimpsed. -/
def atLogicalOperator (c : TokenCursor) (word : String) : Bool × Beside c :=
  if c.token.any (·.kind == .whitespace) then
    let g := c.glimpse
    (g.2.any (·.isName word), ⟨g.1, rfl, rfl⟩)
  else (false, ⟨c, rfl, rfl⟩)

/-- Takes `WS name WS`. -/
def logicalOperator (ctx : Context) (c : TokenCursor) : Except FilterError (Ahead c) := do
  let d ← expect ctx .whitespace c
  let e ← expect ctx .name d.1
  let f ← expect ctx .whitespace e.1
  return d.trans (e.trans f)

/-- Whether a value path starts here: peeks past names and dots from the token after the current
one, tests for `[`, and sets the peek offset back. -/
def valuePathIncoming (c : TokenCursor) : Bool × Beside c :=
  let p := c.peekWhile lookaheadKinds
  (p.2.any (·.kind == .openBracket), ⟨p.1.resetPeek, peekWhile_beside c lookaheadKinds⟩)

/-! ### The productions -/

mutual

/-- Expression → Term (WS "or" WS Expression)? -/
def expression (ctx : Context) (c : TokenCursor) : Except FilterError (Expression × Ahead c) := do
  let (left, d) ← term ctx c
  let (isOr, d') := atLogicalOperator d.1 "or"
  if isOr then
    let e := d.beside d' |>.trans (← logicalOperator ctx d'.1)
    let (right, f) ← expression ctx e.1
    return (.or left right, e.trans f)
  else return (.term left, d.beside d')
termination_by 7 * remaining c + 6
decreasing_by
  · omega
  · apply Ahead.measure_lt; omega

/-- Term → Factor (WS "and" WS Term)? -/
def term (ctx : Context) (c : TokenCursor) : Except FilterError (Term × Ahead c) := do
  let (left, d) ← factor ctx c
  let (isAnd, d') := atLogicalOperator d.1 "and"
  if isAnd then
    let e := d.beside d' |>.trans (← logicalOperator ctx d'.1)
    let (right, f) ← term ctx e.1
    return (.and left right, e.trans f)
  else return (.factor left, d.beside d')
termination_by 7 * remaining c + 5
decreasing_by
  · omega
  · apply Ahead.measure_lt; omega

/-- A negation, a group, a value path or a comparison, tried in this order. -/
def factor (ctx : Context) (c : TokenCursor) : Except FilterError (Factor × Ahead c) :=
  if c.token.any (·.isName "not") then do
    let (inner, d) ← negatedExpression ctx c
    return (.not inner, d)
  else if c.token.any (·.kind == .openParen) then do
    let (inner, d) ← groupedExpression ctx c
    return (.group inner, d)
  else
    let (incoming, c') := valuePathIncoming c
    if incoming && ctx.version.supportsValueFilters then do
      let ((attr, filter), d) ← valuePath ctx c'.1
      return (.valuePath attr filter, c'.ahead d)
    else do
      let (cmp, d) ← comparison ctx c'.1
      return (.comparison cmp, c'.ahead d)
termination_by 7 * remaining c + 4
decreasing_by
  · omega
  · omega
  · rw [Beside.remaining_eq]; omega

/-- "not" WS "(" Expression ")" -/
def negatedExpression (ctx : Context) (c : TokenCursor) :
    Except FilterError (Expression × Ahead c) := do
  let d ← expect ctx .name c
  let e := d.trans (← expect ctx .whitespace d.1)
  let (inner, f) ← groupedExpression ctx e.1
  return (inner, e.trans f)
termination_by 7 * remaining c + 3
decreasing_by apply Ahead.measure_lt; omega

/-- "(" Expression ")" -/
def groupedExpression (ctx : Context) (c : TokenCursor) :
    Except FilterError (Expression × Ahead c) := do
  let d ← expect ctx .openParen c
  let (inner, e) ← expression ctx d.1
  let f ← expect ctx .closeParen e.1
  return (inner, d.trans (e.trans f))
termination_by 7 * remaining c + 2
decreasing_by apply Ahead.measure_lt; omega

/-- AttributePath "[" Expression "]", where the inner filter holds no value path. -/
def valuePath (ctx : Context) (c : TokenCursor) :
    Except FilterError ((AttributePath × Expression) × Ahead c) := do
  let (attr, d) ← attributePath ctx c
  let e := d.ahead (← expect ctx .openBracket d.1)
  let (filter, f) ← expression ctx e.1
  let g ← expect ctx .closeBracket f.1
  if filter.containsValuePath then throw .valueFilterNesting
  return ((attr, filter), e.trans (f.trans g))
termination_by 7 * remaining c + 1
decreasing_by apply Ahead.measure_lt; omega

end

/-- Path → AttributePath ("[" Expression "]" ("." Name)?)? -/
def path (ctx : Context) (c : TokenCursor) : Except FilterError (Path × TokenCursor) := do
  let (attr, d) ← attributePath ctx c
  if d.1.isAtEnd then return (⟨attr, none, none⟩, d.1)
  if !d.1.token.any (·.kind == .openBracket) then throw (syntaxError ctx d.1 .path)
  let e ← expect ctx .openBracket d.1
  let (filter, f) ← expression ctx e.1
  let g ← expect ctx .closeBracket f.1
  if filter.containsValuePath then throw .valueFilterNesting
  if !g.1.token.any (·.kind == .dot) then return (⟨attr, some filter, none⟩, g.1)
  let h := g.1.moveNext.1
  match h.token with
  | some t =>
    if t.kind == .name then return (⟨attr, some filter, some t.text⟩, h.moveNext.1)
    else return (⟨attr, some filter, none⟩, h)
  | none => return (⟨attr, some filter, none⟩, h)

def expectEnd (ctx : Context) (c : TokenCursor) : Except FilterError Unit :=
  if c.isAtEnd then .ok () else .error (syntaxError ctx c .endOfInput)

def filter (ctx : Context) (tokens : Array (Token TokenKind)) : Except FilterError Expression := do
  let (e, d) ← expression ctx (Cursor.new tokens)
  expectEnd ctx d.1
  return e

def wholePath (ctx : Context) (tokens : Array (Token TokenKind)) : Except FilterError Path := do
  let (p, d) ← path ctx (Cursor.new tokens)
  expectEnd ctx d
  return p

end ScimFilter.CursorGrammar
