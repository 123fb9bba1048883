import ScimFilter.Error
import ScimFilter.Filter.Basic
import ScimFilter.Decimal.Read
/-!
The grammar of filters and paths, read by recursive descent over the token list:

    Expression → Term (WS "or" WS Expression)?
    Term       → Factor (WS "and" WS Term)?
    Factor     → "not" WS "(" Expression ")"
               | "(" Expression ")"
               | AttributePath "[" Expression "]"
               | AttributePath WS Operator (WS CompareValue)?
    Path       → AttributePath ("[" Expression "]" ("." Name)?)?

A factor is a value path when, from the token after the current one on, the first token that
is neither a name nor a dot is `[`, and the version knows value filters. Each production returns
the tokens it leaves, which are fewer than it was given: the measure `4 · length + level`
falls on every call, so the descent terminates.
-/

namespace ScimFilter.Grammar

abbrev Tokens := List (Token TokenKind)

/-- A strictly shorter rest of a token list. -/
abbrev Shorter (ts : Tokens) := { r : Tokens // r.length < ts.length }

/-- What the grammar needs besides the tokens. -/
structure Context where
  version : Version
  /-- The byte length of the input, where an error at the end points. -/
  inputLength : Nat

/-- The error for an unexpected current token, or for the end of the input. -/
def Context.fail (ctx : Context) (ts : Tokens) (expected : Expected) : FilterError :=
  match ts with
  | t :: _ => .unexpected t.offset expected (.token t.text)
  | [] => .unexpected ctx.inputLength expected .endOfInput

/-- Token kinds that make up an attribute path. -/
def pathKinds : List TokenKind := [.number, .name, .colon, .slash, .dot]

/-- Token kinds that end an attribute path. -/
def pathStopKinds : List TokenKind := [.whitespace, .openBracket]

/-- Kinds skipped when looking ahead for the `[` of a value path. -/
def lookaheadKinds : List TokenKind := [.name, .dot]

def expect (ctx : Context) (kind : TokenKind) : (ts : Tokens) → Except FilterError (Shorter ts)
  | t :: rest =>
    if t.kind == kind then .ok ⟨rest, by simp⟩ else .error (ctx.fail (t :: rest) (.token kind))
  | [] => .error (ctx.fail [] (.token kind))

/-- The texts of the tokens of an attribute path, up to whitespace, `[` or the end, with the
tokens that follow. A token of another kind is an error. -/
def pathTexts (ctx : Context) :
    (ts : Tokens) → Except FilterError { p : List String × Tokens // p.1.length + p.2.length = ts.length }
  | [] => .ok ⟨([], []), rfl⟩
  | t :: rest =>
    if t.isAny pathStopKinds then .ok ⟨([], t :: rest), by simp⟩
    else if !t.isAny pathKinds then .error (ctx.fail (t :: rest) .attributePath)
    else match pathTexts ctx rest with
      | .ok ⟨(texts, r), h⟩ => .ok ⟨(t.text :: texts, r), by simp at h ⊢; omega⟩
      | .error e => .error e

def attributePath (ctx : Context) (ts : Tokens) : Except FilterError (AttributePath × Shorter ts) :=
  match pathTexts ctx ts with
  | .error e => .error e
  | .ok ⟨([], _), _⟩ => .error (ctx.fail ts .attributePath)
  | .ok ⟨(text :: more, r), h⟩ =>
    let raw := String.join (text :: more)
    if raw.isEmpty then .error (ctx.fail ts .attributePath)
    else match AttributePath.parse raw with
      | .ok p => .ok (p, ⟨r, by simp at h; omega⟩)
      | .error e => .error (.attributePath e)

def operator (ctx : Context) : (ts : Tokens) → Except FilterError (Operator × Shorter ts)
  | t :: rest =>
    match (if t.kind == .name then Operator.ofWord? t.text else none) with
    | some op => .ok (op, ⟨rest, by simp⟩)
    | none => .error (ctx.fail (t :: rest) .comparisonOperator)
  | [] => .error (ctx.fail [] .comparisonOperator)

/-- The text between the quotes of a string literal; escapes stay as written. -/
def unquote (cs : List Char) : List Char :=
  match cs with
  | '"' :: rest => if rest.getLast? = some '"' then rest.dropLast else cs
  | _ => cs

/-- Reads the literal of a comparison. A number must be finite as a double. -/
def compareValue (ctx : Context) : (ts : Tokens) → Except FilterError (CompareValue × Shorter ts)
  | t :: rest =>
    let value : Option CompareValue :=
      match t.kind with
      | .name =>
        if t.text == "true" then some (.bool true)
        else if t.text == "false" then some (.bool false)
        else if t.text == "null" then some .null
        else none
      | .number =>
        let x := Decimal.readNumber t.text.toList
        if x.isFinite then some (.number x) else none
      | .string => some (.string (String.ofList (unquote t.text.toList)))
      | _ => none
    match value with
    | some v => .ok (v, ⟨rest, by simp⟩)
    | none => .error (ctx.fail (t :: rest) .compareValue)
  | [] => .error (ctx.fail [] .compareValue)

/-- Reads `attr WS op` and, unless the operator is `pr`, `WS value`. -/
def comparison (ctx : Context) (ts : Tokens) : Except FilterError (Comparison × Shorter ts) := do
  let (attr, ⟨r1, h1⟩) ← attributePath ctx ts
  let ⟨r2, h2⟩ ← expect ctx .whitespace r1
  let (op, ⟨r3, h3⟩) ← operator ctx r2
  if op.isPresent then return (⟨attr, op, none⟩, ⟨r3, by omega⟩)
  let ⟨r4, h4⟩ ← expect ctx .whitespace r3
  let (v, ⟨r5, h5⟩) ← compareValue ctx r4
  return (⟨attr, op, some v⟩, ⟨r5, by omega⟩)

/-- Whether a whitespace token and then the name `word` come next. -/
def atLogical (word : String) : Tokens → Bool
  | w :: n :: _ => w.kind == .whitespace && n.isName word
  | _ => false

/-- Takes `WS name WS`. -/
def logicalOperator (ctx : Context) (ts : Tokens) : Except FilterError (Shorter ts) := do
  let ⟨r1, h1⟩ ← expect ctx .whitespace ts
  let ⟨r2, h2⟩ ← expect ctx .name r1
  let ⟨r3, h3⟩ ← expect ctx .whitespace r2
  return ⟨r3, by omega⟩

/-- Whether a value path starts here: after the current token, past names and dots, comes `[`. -/
def valuePathAhead (ts : Tokens) : Bool :=
  ((ts.drop 1).find? (fun t => !t.isAny lookaheadKinds)).any (·.kind == .openBracket)

mutual

/-- Expression → Term (WS "or" WS Expression)? -/
def expression (ctx : Context) (ts : Tokens) : Except FilterError (Expression × Shorter ts) := do
  let (left, ⟨r1, h1⟩) ← term ctx ts
  if atLogical "or" r1 then
    let ⟨r2, h2⟩ ← logicalOperator ctx r1
    let (right, ⟨r3, h3⟩) ← expression ctx r2
    return (.or left right, ⟨r3, by omega⟩)
  else return (.term left, ⟨r1, h1⟩)
termination_by 4 * ts.length + 3
decreasing_by all_goals omega

/-- Term → Factor (WS "and" WS Term)? -/
def term (ctx : Context) (ts : Tokens) : Except FilterError (Term × Shorter ts) := do
  let (left, ⟨r1, h1⟩) ← factor ctx ts
  if atLogical "and" r1 then
    let ⟨r2, h2⟩ ← logicalOperator ctx r1
    let (right, ⟨r3, h3⟩) ← term ctx r2
    return (.and left right, ⟨r3, by omega⟩)
  else return (.factor left, ⟨r1, h1⟩)
termination_by 4 * ts.length + 2
decreasing_by all_goals omega

/-- "(" Expression ")" -/
def group (ctx : Context) (ts : Tokens) : Except FilterError (Expression × Shorter ts) := do
  let ⟨r1, h1⟩ ← expect ctx .openParen ts
  let (inner, ⟨r2, h2⟩) ← expression ctx r1
  let ⟨r3, h3⟩ ← expect ctx .closeParen r2
  return (inner, ⟨r3, by omega⟩)
termination_by 4 * ts.length
decreasing_by all_goals omega

/-- A negation, a group, a value path or a comparison, tried in this order. -/
def factor (ctx : Context) (ts : Tokens) : Except FilterError (Factor × Shorter ts) :=
  if ts.head?.any (·.isName "not") then do
    let ⟨r1, h1⟩ ← expect ctx .name ts
    let ⟨r2, h2⟩ ← expect ctx .whitespace r1
    let (inner, ⟨r3, h3⟩) ← group ctx r2
    return (.not inner, ⟨r3, by omega⟩)
  else if ts.head?.any (·.kind == .openParen) then do
    let (inner, r) ← group ctx ts
    return (.group inner, r)
  else if valuePathAhead ts && ctx.version.supportsValueFilters then do
    let (attr, ⟨r1, h1⟩) ← attributePath ctx ts
    let ⟨r2, h2⟩ ← expect ctx .openBracket r1
    let (filter, ⟨r3, h3⟩) ← expression ctx r2
    let ⟨r4, h4⟩ ← expect ctx .closeBracket r3
    if filter.containsValuePath then throw .valueFilterNesting
    return (.valuePath attr filter, ⟨r4, by omega⟩)
  else do
    let (c, r) ← comparison ctx ts
    return (.comparison c, r)
termination_by 4 * ts.length + 1
decreasing_by all_goals omega

end

/-- Path → AttributePath ("[" Expression "]" ("." Name)?)? -/
def path (ctx : Context) (ts : Tokens) : Except FilterError (Path × Tokens) := do
  let (attr, ⟨r1, _⟩) ← attributePath ctx ts
  match r1 with
  | [] => return (⟨attr, none, none⟩, [])
  | t :: _ =>
    if t.kind != .openBracket then throw (ctx.fail r1 .path)
    let ⟨r2, _⟩ ← expect ctx .openBracket r1
    let (filter, ⟨r3, _⟩) ← expression ctx r2
    let ⟨r4, _⟩ ← expect ctx .closeBracket r3
    if filter.containsValuePath then throw .valueFilterNesting
    match r4 with
    | d :: r5 =>
      if d.kind == .dot then
        match r5 with
        | n :: r6 =>
          if n.kind == .name then return (⟨attr, some filter, some n.text⟩, r6)
          else return (⟨attr, some filter, none⟩, r5)
        | [] => return (⟨attr, some filter, none⟩, [])
      else return (⟨attr, some filter, none⟩, r4)
    | [] => return (⟨attr, some filter, none⟩, [])

def expectEnd (ctx : Context) (ts : Tokens) : Except FilterError Unit :=
  if ts.isEmpty then .ok () else .error (ctx.fail ts .endOfInput)

def filter (ctx : Context) (ts : Tokens) : Except FilterError Expression := do
  let (e, ⟨r, _⟩) ← expression ctx ts
  expectEnd ctx r
  return e

def wholePath (ctx : Context) (ts : Tokens) : Except FilterError Path := do
  let (p, r) ← path ctx ts
  expectEnd ctx r
  return p

end ScimFilter.Grammar
