import ScimFilter.Pattern.Basic
import ScimFilter.Pattern.ByteRanges
/-!
Patterns in simplified form, the form an automaton is compiled from. Simplifying keeps what a
pattern matches and puts it into a normal shape:

* a sequence lists its parts, with nested sequences flattened, empty parts dropped and adjacent
  literals merged into one;
* an alternation lists its branches, with nested alternations flattened; branches that are all
  single characters, or all sets, become one set, and branches that all start with the same
  parts have those parts taken out in front;
* a set of one character is that character as a literal;
* a repetition of something that only matches the empty text repeats at most once, `x{0}` is
  empty and `x{1}` is `x`;
* groups that do not capture disappear.

Each constructor is applied to parts already simplified, bottom up, alternatives one group at a
time: which branches are flattened together depends on the groups as written.
-/

namespace ScimFilter.Pattern

/-- A pattern in simplified form. -/
inductive Term where
  /-- Matches the empty text. -/
  | empty
  /-- Matches a non-empty run of characters. -/
  | literal (chars : List Char)
  /-- Matches one character of a set with no element or at least two. -/
  | set (s : CharSet)
  /-- Matches the empty text where the assertion holds. -/
  | look (l : Look)
  /-- Matches the body between `min` and `max` times. -/
  | rep (body : Term) (min : Nat) (max : Option Nat) (greedy : Bool)
  /-- Matches the body, recording where. -/
  | capture (body : Term)
  /-- Matches the parts one after another. -/
  | concat (parts : List Term)
  /-- Matches one of the branches, the earliest preferred. -/
  | alt (branches : List Term)
  deriving Repr

namespace Term

mutual

/-- Whether two terms are the same. Every capturing group has a number of its own, so two
captures are never the same. -/
def same : Term → Term → Bool
  | .empty, .empty => true
  | .literal a, .literal b => a == b
  | .set a, .set b => a == b
  | .look a, .look b => a == b
  | .rep a i j g, .rep b k l h => i == k && j == l && g == h && same a b
  | .concat xs, .concat ys => sameAll xs ys
  | .alt xs, .alt ys => sameAll xs ys
  | _, _ => false

def sameAll : List Term → List Term → Bool
  | [], [] => true
  | x :: xs, y :: ys => same x y && sameAll xs ys
  | _, _ => false

end

/-- The UTF-8 bytes of a run of characters. -/
def literalBytes (cs : List Char) : List Nat :=
  cs.flatMap fun c => utf8Encode c.toNat

def addLen : Option Nat → Option Nat → Option Nat
  | some a, some b => some (a + b)
  | _, _ => none

/-- Combines two lengths of branches with `f`, either of which may be unknown. -/
def pickLen (f : Nat → Nat → Nat) : Option Nat → Option Nat → Option Nat
  | some a, some b => some (f a b)
  | _, _ => none

mutual

/-- The fewest bytes a match takes; `none` when nothing matches. -/
def minLen : Term → Option Nat
  | .empty => some 0
  | .literal cs => some (literalBytes cs).length
  | .set s => s[0]?.map fun r => (utf8Encode r.1).length
  | .look _ => some 0
  | .rep b min _ _ => b.minLen.map (· * min)
  | .capture b => b.minLen
  | .concat ps => minLenSum ps
  | .alt bs => minLenLeast bs

def minLenSum : List Term → Option Nat
  | [] => some 0
  | p :: ps => addLen p.minLen (minLenSum ps)

def minLenLeast : List Term → Option Nat
  | [] => none
  | p :: ps => match ps with
    | [] => p.minLen
    | _ => pickLen min p.minLen (minLenLeast ps)

end

mutual

/-- The most bytes a match takes; `none` when nothing matches or there is no bound. -/
def maxLen : Term → Option Nat
  | .empty => some 0
  | .literal cs => some (literalBytes cs).length
  | .set s => s.back?.map fun r => (utf8Encode r.2).length
  | .look _ => some 0
  | .rep b _ max _ => max.bind fun m => b.maxLen.map (· * m)
  | .capture b => b.maxLen
  | .concat ps => maxLenSum ps
  | .alt bs => maxLenMost bs

def maxLenSum : List Term → Option Nat
  | [] => some 0
  | p :: ps => addLen p.maxLen (maxLenSum ps)

def maxLenMost : List Term → Option Nat
  | [] => none
  | p :: ps => match ps with
    | [] => p.maxLen
    | _ => pickLen max p.maxLen (maxLenMost ps)

end

/-- Whether a term only matches the empty text. -/
def onlyEmpty (p : Term) : Bool :=
  p.maxLen == some 0

mutual

/-- Whether every match starts at the start of the text: the assertion `\A` is met before any
character is. -/
def startAnchored : Term → Bool
  | .look l => l == .textStart
  | .rep b min _ _ => 0 < min && b.startAnchored
  | .capture b => b.startAnchored
  | .concat ps => prefixAnchored ps
  | .alt bs => !bs.isEmpty && allStartAnchored bs
  | _ => false

/-- Whether a sequence is anchored at the start by its first part, or by a later part when
the parts before it only match the empty text. -/
def prefixAnchored : List Term → Bool
  | [] => false
  | p :: ps => p.startAnchored || (p.onlyEmpty && prefixAnchored ps)

def allStartAnchored : List Term → Bool
  | [] => true
  | p :: ps => p.startAnchored && allStartAnchored ps

end

def allOnlyEmpty (ps : List Term) : Bool :=
  ps.all onlyEmpty

mutual

/-- Whether every match ends at the end of the text: the assertion `\z` is met after every
character is. -/
def endAnchored : Term → Bool
  | .look l => l == .textEnd
  | .rep b min _ _ => 0 < min && b.endAnchored
  | .capture b => b.endAnchored
  | .concat ps => suffixAnchored ps
  | .alt bs => !bs.isEmpty && allEndAnchored bs
  | _ => false

/-- Whether a sequence is anchored at the end by its last part, or by an earlier part when
the parts after it only match the empty text. -/
def suffixAnchored : List Term → Bool
  | [] => false
  | p :: ps => suffixAnchored ps || (allOnlyEmpty ps && p.endAnchored)

def allEndAnchored : List Term → Bool
  | [] => true
  | p :: ps => p.endAnchored && allEndAnchored ps

end

/-- The term of a set: a set of one character is a literal. -/
def ofSet (s : CharSet) : Term :=
  match s.toList with
  | [(a, b)] => if a == b then .literal [Char.ofNat a] else .set s
  | _ => .set s

/-- The parts of a sequence joined: nested sequences flattened, empty parts dropped and
adjacent literals merged. -/
def sequence (parts : List Term) : Term :=
  let flat := parts.flatMap fun p => match p with
    | .concat ps => ps
    | .empty => []
    | p => [p]
  let merged := flat.foldr (fun p acc => match p, acc with
    | .literal a, .literal b :: rest => .literal (a ++ b) :: rest
    | p, acc => p :: acc) []
  match merged with
  | [] => .empty
  | [p] => p
  | ps => .concat ps

def singleChars? : List Term → Option (List Char)
  | [] => some []
  | .literal [c] :: bs => (singleChars? bs).map (c :: ·)
  | _ => none

def allSets? : List Term → Option CharSet
  | [] => some CharSet.empty
  | .set s :: bs => (allSets? bs).map s.union
  | _ => none

def allParts? : List Term → Option (List (List Term))
  | [] => some []
  | .concat ps :: bs => (allParts? bs).map (ps :: ·)
  | _ => none

def sharedLength : List Term → List Term → Nat
  | x :: xs, y :: ys => if same x y then sharedLength xs ys + 1 else 0
  | _, _ => 0

/-- The parts that sequences all start with, and what is left of each; `none` when they share
no first part. -/
def commonPrefix? (seqs : List (List Term)) : Option (List Term × List (List Term)) :=
  match seqs with
  | [] => none
  | first :: rest =>
    let n := rest.foldl (fun n ps => min n (sharedLength first ps)) first.length
    if n == 0 then none else some (first.take n, seqs.map (·.drop n))

/-- The branches of an alternation joined, taking out common first parts at most `fuel` times. -/
def choice : Nat → List Term → Term
  | fuel, branches =>
    let flat := branches.flatMap fun b => match b with
      | .alt bs => bs
      | b => [b]
    match flat with
    | [] => .set CharSet.empty
    | [b] => b
    | _ =>
      match singleChars? flat with
      | some cs => ofSet (CharSet.normalize (cs.map fun c => (c.toNat, c.toNat)))
      | none =>
        match allSets? flat with
        | some s => ofSet s
        | none =>
          match fuel, (allParts? flat).bind commonPrefix? with
          | fuel + 1, some (pre, rests) => sequence (pre ++ [choice fuel (rests.map sequence)])
          | _, _ => .alt flat

/-- The branches of an alternation joined. Each time common first parts are taken out, the
sequences left are shorter, so their total length bounds how often that can happen. -/
def alternation (branches : List Term) : Term :=
  let bound := branches.foldl (fun n b => match b with
    | .concat ps => n + ps.length
    | _ => n) 1
  choice bound branches

/-- A repetition. Something that only matches the empty text is repeated at most once; a
repetition exactly zero times is empty and exactly once is the body. -/
def repetition (body : Term) (min : Nat) (max : Option Nat) (greedy : Bool) : Term :=
  let (min, max) :=
    if body.onlyEmpty then (Nat.min min 1, some (Nat.min (max.getD 1) 1)) else (min, max)
  if min == 0 && max == some 0 then .empty
  else if min == 1 && max == some 1 then body
  else .rep body min max greedy

end Term

mutual

def Regex.toTerm : Regex → Term
  | .empty => .empty
  | .chars s => Term.ofSet s
  | .look l => .look l
  | .seq a b => Term.sequence (a.toTerm :: Regex.seqTerms b)
  | .alt a b => Term.alternation (a.toTerm :: Regex.altTerms b)
  | .many b lo hi g => Term.repetition b.toTerm lo hi g
  | .group capturing b => if capturing then .capture b.toTerm else b.toTerm
termination_by r => (sizeOf r, 0)

/-- The simplified parts of a chain of sequences `a (b (c …))`. -/
def Regex.seqTerms : Regex → List Term
  | .seq a b => a.toTerm :: Regex.seqTerms b
  | r => [r.toTerm]
termination_by r => (sizeOf r, 1)

/-- The simplified branches of a chain of alternatives `a | (b | (c | …))`. -/
def Regex.altTerms : Regex → List Term
  | .alt a b => a.toTerm :: Regex.altTerms b
  | r => [r.toTerm]
termination_by r => (sizeOf r, 1)

end

end ScimFilter.Pattern
