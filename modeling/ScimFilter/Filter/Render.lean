import ScimFilter.Filter.Basic
/-!
Canonical text of filters and paths. Logical operators stand between single spaces, groups
are parenthesized, a negation is `not (…)`, numbers are written in plain decimal notation with
the fewest digits that read back, and strings are quoted again with their escapes as written.
Reading the canonical text gives back an equal tree.
-/

namespace ScimFilter

def Comparison.render (c : Comparison) : String :=
  c.attr.render ++ " " ++ c.op.word ++
    (match c.value with
      | some v => " " ++ v.render
      | none => "")

mutual

def Expression.render : Expression → String
  | .or left right => left.render ++ " or " ++ right.render
  | .term t => t.render

def Term.render : Term → String
  | .and left right => left.render ++ " and " ++ right.render
  | .factor f => f.render

def Factor.render : Factor → String
  | .comparison c => c.render
  | .group inner => "(" ++ inner.render ++ ")"
  | .not inner => "not (" ++ inner.render ++ ")"
  | .valuePath attr filter => attr.render ++ "[" ++ filter.render ++ "]"

end

/-- A path as written; the sub-attribute shows only after a value filter. -/
def Path.render (p : Path) : String :=
  p.attr.render ++
    (match p.filter with
      | some f => "[" ++ f.render ++ "]" ++
        (match p.subAttribute with
          | some s => "." ++ s
          | none => "")
      | none => "")

def Root.render : Root → String
  | .filter e => e.render
  | .path p => p.render

end ScimFilter
