import ScimFilter.Pattern.Term
import ScimFilter.Pattern.Footprint.Classes
import ScimFilter.Pattern.Footprint.Literals
/-!
The memory of the automata a pattern is compiled to. A pattern in simplified form is built into
two automata, one that reads forwards and keeps its capturing groups, and one that reads
backwards without them; the pattern is refused unless both stay within `memoryLimit`.

Every part of a pattern becomes a fragment of states with a start and an end, and fragments are
joined by pointing the end of one to the start of the next. Most ends simply record their
successor, but an end that is a union state gains an alternative, which costs memory: so the
count follows which fragments end in a union. The parts of a sequence are built in order
forwards and in reverse order backwards; everything else is built in the same order both ways.

* A repetition `x{n}` is `n` copies of `x`; `x{n,m}` adds `m - n` optional copies, each behind a
  union with two alternatives, and a shared end; `x?` is a union, `x` and an end.
* `x*` is a union looping over `x` when `x` cannot match the empty text, and otherwise a copy of
  `x` with two unions and an end; `x+` and `x{n,}` are copies of `x` and a union looping over the
  last one.
* An alternation of two or more literals is a trie; any other alternation is its branches, then
  a union with an alternative per branch and an end.
* A class is built as `classStates` says; a literal is a state per byte; an assertion or the
  empty pattern is one state.
-/

namespace ScimFilter.Pattern

namespace Term

/-- The characters of branches that are all literals. -/
def literalBranches? : List Term → Option (List (List Char))
  | [] => some []
  | .literal cs :: bs => (literalBranches? bs).map (cs :: ·)
  | _ => none

mutual

/-- Whether the fragment of a term ends in a union state. A repetition with no upper bound ends
in the union that loops over its body, except `x*` where `x` can match the empty text; `x{n}`
ends where its last copy does; a sequence ends where the part built last does. -/
def endsInUnion (forward : Bool) : Term → Bool
  | .rep b min max _ =>
    match max with
    | none => 0 < min || b.minLen.any (0 < ·)
    | some m => min == m && min != 0 && endsInUnion forward b
  | .capture b => !forward && endsInUnion forward b
  | .concat ps => if forward then lastEndsInUnion forward ps else firstEndsInUnion forward ps
  | _ => false

def lastEndsInUnion (forward : Bool) : List Term → Bool
  | [] => false
  | [p] => endsInUnion forward p
  | _ :: ps => lastEndsInUnion forward ps

def firstEndsInUnion (forward : Bool) : List Term → Bool
  | [] => false
  | p :: _ => endsInUnion forward p

end

/-- The memory of joining the parts of a sequence: an alternative for every part, other than
the one built last, that ends in a union state. -/
def sequenceLinks (forward : Bool) (ps : List Term) : Nat :=
  let joined := if forward then ps.dropLast else ps.drop 1
  alternativeBytes * (joined.filter (endsInUnion forward)).length

mutual

/-- Adds the states of a term's fragment, built forwards or backwards. -/
def build (forward : Bool) : Term → Tally → Option Tally
  | .empty, t => t.addState 0
  | .literal cs, t => t.addStates (literalBytes cs).length
  | .set s, t => classStates forward s t
  | .look _, t => t.addState 0
  | .capture b, t =>
    if forward then
      (t.addState 0).bind (build forward b) |>.bind (·.addState 0)
        |>.bind (·.link (endsInUnion forward b))
    else build forward b t
  | .concat ps, t =>
    (if forward then buildParts forward ps t else buildPartsBack forward ps t).bind
      (·.addLists (sequenceLinks forward ps))
  | .alt bs, t =>
    match literalBranches? bs with
    | some strings =>
      literalStates (strings.map fun cs =>
        if forward then literalBytes cs else (literalBytes cs).reverse) t
    | none => buildBranches forward bs t
  | .rep b min max _, t =>
    let linked := endsInUnion forward b
    let copy : Tally → Option Tally := build forward b
    let copyAgain : Tally → Option Tally := fun t => (copy t).bind (·.link linked)
    let copies (n : Nat) (t : Tally) : Option Tally :=
      if n == 0 then t.addState 0 else (copy t).bind (Tally.iterate copyAgain (n - 1))
    match min, max with
    | 0, some 1 =>
      (t.addState 0).bind copy |>.bind (·.addState 0)
        |>.bind (·.addLists (2 * alternativeBytes)) |>.bind (·.link linked)
    | 0, none =>
      if b.minLen.any (0 < ·) then
        (t.addState 0).bind copy |>.bind (·.addLists alternativeBytes) |>.bind (·.link linked)
      else
        (copy t).bind (·.addState 0) |>.bind (·.link linked)
          |>.bind (·.addLists alternativeBytes) |>.bind (·.addState 0) |>.bind (·.addState 0)
          |>.bind (·.addLists (3 * alternativeBytes))
    | 1, none =>
      (copy t).bind (·.addState 0) |>.bind (·.link linked) |>.bind (·.addLists alternativeBytes)
    | n, none =>
      (copies (n - 1) t).bind copy |>.bind (·.addState 0) |>.bind (·.link linked)
        |>.bind (·.link linked) |>.bind (·.addLists alternativeBytes)
    | n, some m =>
      if n == m then copies n t
      else
        let optional (afterCopy : Bool) (t : Tally) : Option Tally :=
          (t.addState 0).bind copy |>.bind (·.link afterCopy)
            |>.bind (·.addLists (2 * alternativeBytes))
        (copies n t).bind (·.addState 0) |>.bind (optional (n != 0 && linked))
          |>.bind (Tally.iterate (optional linked) (m - n - 1)) |>.bind (·.link linked)

def buildParts (forward : Bool) : List Term → Tally → Option Tally
  | [], t => some t
  | p :: ps, t => (build forward p t).bind (buildParts forward ps)

def buildPartsBack (forward : Bool) : List Term → Tally → Option Tally
  | [], t => some t
  | p :: ps, t => (buildPartsBack forward ps t).bind (build forward p)

/-- Adds an alternation that is not all literals: the first two branches, the union and the
end, then the other branches, each joined to the union and the end. -/
def buildBranches (forward : Bool) : List Term → Tally → Option Tally
  | [], t => t.addState 0
  | [b], t => build forward b t
  | b₁ :: b₂ :: bs, t =>
    (build forward b₁ t).bind (build forward b₂) |>.bind (·.addState 0) |>.bind (·.addState 0)
      |>.bind (·.addLists (2 * alternativeBytes)) |>.bind (·.link (endsInUnion forward b₁))
      |>.bind (·.link (endsInUnion forward b₂)) |>.bind (buildMoreBranches forward bs)

/-- Adds the branches of an alternation after its second, each joined to the union and the end. -/
def buildMoreBranches (forward : Bool) : List Term → Tally → Option Tally
  | [], t => some t
  | b :: bs, t =>
    (build forward b t).bind (·.addLists alternativeBytes) |>.bind (·.link (endsInUnion forward b))
      |>.bind (buildMoreBranches forward bs)

end

/-- Whether the automaton of a pattern built in one direction stays within the limit. Forwards,
the whole pattern is a capturing group; backwards, groups add nothing. Unless every match is
anchored where the automaton starts reading, it starts with a lazy loop over any byte, so that
a match may start anywhere, and then a match state follows the pattern. -/
def fitsIn (forward : Bool) (p : Term) : Bool :=
  let anchored := if forward then p.startAnchored else p.endAnchored
  let start : Option Tally :=
    if anchored then ({} : Tally).addState 0
    else
      (({} : Tally).addState 0).bind (·.addState 0) |>.bind (·.addState transitionBytes)
        |>.bind (·.addLists (2 * alternativeBytes))
  let whole := start.bind fun t =>
    if forward then
      (t.addState 0).bind (build true p) |>.bind (·.addState 0)
        |>.bind (·.link (endsInUnion true p)) |>.bind (·.addState 0)
    else
      (build false p t).bind (·.addState 0) |>.bind (·.link (endsInUnion false p))
  whole.isSome

def fits (p : Term) : Bool :=
  fitsIn true p && fitsIn false p

end Term

end ScimFilter.Pattern
