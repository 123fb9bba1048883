import ScimFilter.Filter.Grammar
/-!
The grammar of filters and paths as a relation between lexemes and syntax trees. A lexeme is
what the grammar reads of a token, its kind and its text; offsets and positions play no part.

    Expression → Term | Term WS "or" WS Expression
    Term       → Factor | Factor WS "and" WS Term
    Factor     → "not" WS "(" Expression ")"
               | "(" Expression ")"
               | AttributePath "[" Expression "]"
               | AttributePath WS Operator (WS Value)?
    Path       → AttributePath ("[" Expression "]" ("." Name?)?)?

The productions carry the rules by which the descent chooses among the factors. The name `not`
at the start of a factor always opens a negation, so no factor's attribute path starts with it.
The `[` of a value path is looked for past the first lexeme of the attribute path, over names
and dots only: an attribute path with a number, colon or slash after its first lexeme never
opens a value filter. Value filters exist only in version 2 and do not nest. After the value
filter of a path, a dot may stand without a sub-attribute.
-/

namespace ScimFilter

/-- What the grammar reads of a token: its kind and its text. -/
abbrev Lexeme := TokenKind × String

def Token.lexeme (t : Token TokenKind) : Lexeme := (t.kind, t.text)

namespace Grammar

def lexemes (ts : Tokens) : List Lexeme := ts.map Token.lexeme

@[simp] theorem lexemes_nil : lexemes [] = [] := rfl

@[simp] theorem lexemes_cons (t : Token TokenKind) (ts : Tokens) :
    lexemes (t :: ts) = t.lexeme :: lexemes ts := rfl

@[simp] theorem lexemes_append (ts us : Tokens) :
    lexemes (ts ++ us) = lexemes ts ++ lexemes us :=
  List.map_append ..

@[simp] theorem map_fst_lexemes (ts : Tokens) : (lexemes ts).map Prod.fst = ts.map Token.kind := by
  simp [lexemes, Token.lexeme, Function.comp_def]

@[simp] theorem map_snd_lexemes (ts : Tokens) : (lexemes ts).map Prod.snd = ts.map Token.text := by
  simp [lexemes, Token.lexeme, Function.comp_def]

/-- An attribute path: a non-empty run of number, name, colon, slash and dot lexemes whose
texts, joined, read as the path. -/
structure IsAttributePath (ps : List Lexeme) (attr : AttributePath) : Prop where
  ne_nil : ps ≠ []
  kinds : ∀ x ∈ ps, x.1 ∈ pathKinds
  reads : AttributePath.parse (String.join (ps.map Prod.snd)) = .ok attr

/-- Past the first lexeme of the attribute path, the `[` of a value path is looked for over
names and dots only. -/
def ValuePathLookahead (ps : List Lexeme) : Prop :=
  ∀ x ∈ ps.tail, x.1 = .name ∨ x.1 = .dot

/-- The name `not`, which opens a negation wherever a factor starts. -/
def notKeyword : Lexeme := (.name, "not")

/-- A name that writes a comparison operator. -/
def IsOperator (x : Lexeme) (op : Operator) : Prop :=
  x.1 = .name ∧ Operator.ofWord? x.2 = some op

/-- The literal a lexeme writes: three names, a number that is finite as a double, or a string
whose quotes are dropped and whose escapes stay as written. -/
inductive IsLiteral : Lexeme → CompareValue → Prop
  | true : IsLiteral (.name, "true") (.bool true)
  | false : IsLiteral (.name, "false") (.bool false)
  | null : IsLiteral (.name, "null") .null
  | number (text : String) (finite : (Decimal.readNumber text.toList).isFinite = true) :
      IsLiteral (.number, text) (.number (Decimal.readNumber text.toList))
  | string (text : String) :
      IsLiteral (.string, text) (.string (String.ofList (unquote text.toList)))

mutual

/-- The lexemes derive the expression in the grammar of the version. -/
inductive DerivesExpression (v : Version) : List Lexeme → Expression → Prop
  | term {xs : List Lexeme} {t : Term} : DerivesTerm v xs t → DerivesExpression v xs (.term t)
  | or {xs ys : List Lexeme} {t : Term} {e : Expression} {w w' : String} :
      DerivesTerm v xs t → DerivesExpression v ys e →
      DerivesExpression v (xs ++ (.whitespace, w) :: (.name, "or") :: (.whitespace, w') :: ys)
        (.or t e)

inductive DerivesTerm (v : Version) : List Lexeme → Term → Prop
  | factor {xs : List Lexeme} {f : Factor} : DerivesFactor v xs f → DerivesTerm v xs (.factor f)
  | and {xs ys : List Lexeme} {f : Factor} {t : Term} {w w' : String} :
      DerivesFactor v xs f → DerivesTerm v ys t →
      DerivesTerm v (xs ++ (.whitespace, w) :: (.name, "and") :: (.whitespace, w') :: ys)
        (.and f t)

inductive DerivesFactor (v : Version) : List Lexeme → Factor → Prop
  | not {xs : List Lexeme} {e : Expression} {w o c : String} : DerivesExpression v xs e →
      DerivesFactor v (notKeyword :: (.whitespace, w) :: (.openParen, o) :: xs ++ [(.closeParen, c)])
        (.not e)
  | group {xs : List Lexeme} {e : Expression} {o c : String} : DerivesExpression v xs e →
      DerivesFactor v ((.openParen, o) :: xs ++ [(.closeParen, c)]) (.group e)
  | valuePath {ps xs : List Lexeme} {attr : AttributePath} {e : Expression} {b c : String} :
      v.supportsValueFilters = true → IsAttributePath ps attr → ps.head? ≠ some notKeyword →
      ValuePathLookahead ps → DerivesExpression v xs e → e.containsValuePath = false →
      DerivesFactor v (ps ++ (.openBracket, b) :: xs ++ [(.closeBracket, c)]) (.valuePath attr e)
  | present {ps : List Lexeme} {attr : AttributePath} {w : String} {o : Lexeme} :
      IsAttributePath ps attr → ps.head? ≠ some notKeyword → IsOperator o .present →
      DerivesFactor v (ps ++ [(.whitespace, w), o]) (.comparison ⟨attr, .present, none⟩)
  | compare {ps : List Lexeme} {attr : AttributePath} {w w' : String} {o x : Lexeme}
      {op : Operator} {val : CompareValue} :
      IsAttributePath ps attr → ps.head? ≠ some notKeyword → IsOperator o op → op ≠ .present →
      IsLiteral x val →
      DerivesFactor v (ps ++ [(.whitespace, w), o, (.whitespace, w'), x])
        (.comparison ⟨attr, op, some val⟩)

end

/-- The lexemes derive the path in the grammar of the version. -/
inductive DerivesPath (v : Version) : List Lexeme → Path → Prop
  | bare {ps : List Lexeme} {attr : AttributePath} :
      IsAttributePath ps attr → DerivesPath v ps ⟨attr, none, none⟩
  | filtered {ps xs : List Lexeme} {attr : AttributePath} {e : Expression} {b c : String} :
      IsAttributePath ps attr → DerivesExpression v xs e → e.containsValuePath = false →
      DerivesPath v (ps ++ (.openBracket, b) :: xs ++ [(.closeBracket, c)]) ⟨attr, some e, none⟩
  | dotted {ps xs : List Lexeme} {attr : AttributePath} {e : Expression} {b c d : String} :
      IsAttributePath ps attr → DerivesExpression v xs e → e.containsValuePath = false →
      DerivesPath v (ps ++ (.openBracket, b) :: xs ++ [(.closeBracket, c), (.dot, d)])
        ⟨attr, some e, none⟩
  | subAttribute {ps xs : List Lexeme} {attr : AttributePath} {e : Expression} {b c d n : String} :
      IsAttributePath ps attr → DerivesExpression v xs e → e.containsValuePath = false →
      DerivesPath v (ps ++ (.openBracket, b) :: xs ++ [(.closeBracket, c), (.dot, d), (.name, n)])
        ⟨attr, some e, some n⟩

/-- The lexemes derive the tree from the start symbol of the mode. -/
def DerivesRoot (m : Mode) (v : Version) (xs : List Lexeme) : Root → Prop
  | .filter e => m = .filter ∧ DerivesExpression v xs e
  | .path p => m = .path ∧ DerivesPath v xs p

end Grammar

end ScimFilter
