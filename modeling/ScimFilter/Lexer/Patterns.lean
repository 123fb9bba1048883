import ScimFilter.Lexer.Scan
import ScimFilter.Pattern.Parse
import ScimFilter.Pattern.Footprint
import ScimFilter.Pattern.Match
import ScimFilter.Error
/-!
Lexer rules written as patterns. A pattern text compiles when it reads, nests no deeper than
`nestLimit`, and both of its automata fit in memory. A rule's pattern is compiled as anchored at
the start of the remaining text, and the rule takes the preferred match there. A set of rules is
accepted only if every pattern compiles; the first one that does not is reported.
-/

namespace ScimFilter.Pattern

def compile (text : String) : Except PatternError Regex :=
  match read text with
  | .ok p => if p.toTerm.fits then .ok p else .error .tooLarge
  | .error e => .error e

def compileAnchored (text : String) : Except PatternError Regex :=
  compile (anchoredText text)

end ScimFilter.Pattern

namespace ScimFilter.Lexer

/-- The rule that takes the preferred match of a pattern at the start of the text. -/
def Rule.ofPattern {κ : Type} (kind : κ) (pat : Pattern.Regex) : Rule κ :=
  ⟨kind, Pattern.firstMatch pat⟩

/-- Reads rules from token kinds and pattern texts, keeping their order. -/
def rulesOfPatterns {κ : Type} : List (κ × String) → Except FilterError (List (Rule κ))
  | [] => .ok []
  | (kind, source) :: more =>
    match Pattern.compileAnchored source with
    | .error _ => .error (.configuration (.invalidPattern source))
    | .ok pat => (rulesOfPatterns more).map (Rule.ofPattern kind pat :: ·)

end ScimFilter.Lexer
