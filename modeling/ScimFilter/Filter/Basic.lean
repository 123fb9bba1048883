import ScimFilter.Filter.AttributePath
import ScimFilter.Filter.Operator
import ScimFilter.Filter.Value
/-!
The syntax tree of filters and paths.

A filter is a chain of terms joined by `or`, a term a chain of factors joined by `and`, so
`and` binds tighter than `or` and both chain to the right: `a or b or c` is
`or a (or b c)`. A factor is a comparison, a parenthesized group, a negated group, or a value
path `attr[filter]`. Value filters do not nest: no value path holds another one.

A path, the target of a change, is an attribute path, optionally narrowed by a value filter,
which in turn may be followed by a sub-attribute.
-/

namespace ScimFilter

/-- An attribute compared with a literal, or tested for presence. The value is absent
exactly when the operator is `pr`. -/
structure Comparison where
  attr : AttributePath
  op : Operator
  value : Option CompareValue
  deriving BEq, Inhabited

mutual

/-- A chain of terms joined by `or`. -/
inductive Expression where
  | or (left : Term) (right : Expression)
  | term (t : Term)

/-- A chain of factors joined by `and`. -/
inductive Term where
  | and (left : Factor) (right : Term)
  | factor (f : Factor)

inductive Factor where
  | comparison (c : Comparison)
  /-- `(inner)` -/
  | group (inner : Expression)
  /-- `not (inner)` -/
  | not (inner : Expression)
  /-- `attr[filter]` -/
  | valuePath (attr : AttributePath) (filter : Expression)

end

mutual

/-- Equality of trees, node by node; numbers compare as doubles. -/
def Expression.beq : Expression → Expression → Bool
  | .or left right, .or left' right' => left.beq left' && right.beq right'
  | .term t, .term t' => t.beq t'
  | _, _ => false

def Term.beq : Term → Term → Bool
  | .and left right, .and left' right' => left.beq left' && right.beq right'
  | .factor f, .factor f' => f.beq f'
  | _, _ => false

def Factor.beq : Factor → Factor → Bool
  | .comparison c, .comparison c' => c == c'
  | .group inner, .group inner' => inner.beq inner'
  | .not inner, .not inner' => inner.beq inner'
  | .valuePath attr filter, .valuePath attr' filter' => attr == attr' && filter.beq filter'
  | _, _ => false

end

instance : BEq Expression := ⟨Expression.beq⟩
instance : BEq Term := ⟨Term.beq⟩
instance : BEq Factor := ⟨Factor.beq⟩

mutual

/-- Whether a value path occurs anywhere in the expression. -/
def Expression.containsValuePath : Expression → Bool
  | .or left right => left.containsValuePath || right.containsValuePath
  | .term t => t.containsValuePath

def Term.containsValuePath : Term → Bool
  | .and left right => left.containsValuePath || right.containsValuePath
  | .factor f => f.containsValuePath

def Factor.containsValuePath : Factor → Bool
  | .comparison _ => false
  | .group inner => inner.containsValuePath
  | .not inner => inner.containsValuePath
  | .valuePath _ _ => true

end

namespace Expression

/-- The single factor, when the expression is one factor with no `and` or `or`. -/
def asFactor? : Expression → Option Factor
  | term (.factor f) => some f
  | _ => none

/-- The single comparison, when the expression is nothing else. -/
def asComparison? (e : Expression) : Option Comparison :=
  match e.asFactor? with
  | some (.comparison c) => some c
  | _ => none

/-- The single term, when the expression has no `or`. -/
def asTerm? : Expression → Option Term
  | term t => some t
  | _ => none

def ofTerm (t : Term) : Expression := term t

def ofFactor (f : Factor) : Expression := term (.factor f)

end Expression

/-- The target of a change: an attribute, optionally narrowed by a value filter, which may be
followed by a sub-attribute. -/
structure Path where
  attr : AttributePath
  filter : Option Expression
  subAttribute : Option String
  deriving BEq

/-- What a parse yields: a filter, or a path. -/
inductive Root where
  | filter (e : Expression)
  | path (p : Path)
  deriving BEq

namespace Root

def toFilter? : Root → Option Expression
  | filter e => some e
  | path _ => none

def toPath? : Root → Option Path
  | path p => some p
  | filter _ => none

end Root

end ScimFilter
