import ScimFilter.Pattern.Basic
import ScimFilter.Pattern.Classes
/-!
Leftmost-first matching. For a pattern started at a position of a text, `ends` lists the
positions where a match can end, best first, each position once. The first entry is the match a
backtracking matcher would find; later duplicates are dropped because, once a position has been
reached, a worse path to it can only repeat what the better path already found.

A repetition is computed from the end lists of its body at every position. An unbounded loop
never enters its body twice at the same position: an iteration that matched the empty text ends
the loop there. A bounded repetition unrolls into nested optional copies, and copies beyond the
length of the remaining text add nothing new, so their number is capped.
-/

namespace ScimFilter.Pattern

/-- Drops later copies of repeated entries, keeping the first. -/
def dedup (xs : List Nat) : List Nat :=
  go xs []
where
  /-- Keeps the entries of `xs` not in `seen`, in order. -/
  go : List Nat → List Nat → List Nat
    | [], _ => []
    | x :: rest, seen => if seen.contains x then go rest seen else x :: go rest (x :: seen)

namespace Look

/-- Whether the character at index `i` of the text is a word character. -/
def wordAt (ascii : Bool) (hay : Array Char) (i : Nat) : Bool :=
  match hay[i]? with
  | some c => isWordIn ascii c
  | none => false

def wordBefore (w : WordKind) (hay : Array Char) (p : Nat) : Bool :=
  p != 0 && wordAt (w == .ascii) hay (p - 1)

def wordAfter (w : WordKind) (hay : Array Char) (p : Nat) : Bool :=
  wordAt (w == .ascii) hay p

/-- Whether an assertion holds at position `p` of a text. -/
def holds (hay : Array Char) (p : Nat) : Look → Bool
  | textStart => p == 0
  | textEnd => p == hay.size
  | lineStart crlf =>
    p == 0 || hay[p - 1]? == some '\n' ||
      (crlf && hay[p - 1]? == some '\r' && hay[p]? != some '\n')
  | lineEnd crlf =>
    p == hay.size || (hay[p]? == some '\n' && !(crlf && p != 0 && hay[p - 1]? == some '\r')) ||
      (crlf && hay[p]? == some '\r')
  | boundary w => wordBefore w hay p != wordAfter w hay p
  | notBoundary w => wordBefore w hay p == wordAfter w hay p
  | wordStart w => !wordBefore w hay p && wordAfter w hay p
  | wordEnd w => wordBefore w hay p && !wordAfter w hay p
  | wordStartHalf w => !wordBefore w hay p
  | wordEndHalf w => !wordAfter w hay p

end Look

/-- The ends of a body repeated exactly `k` more times from each of the positions, in order. -/
def exactlyEnds (step : Nat → List Nat) : Nat → List Nat → List Nat
  | 0, ps => ps
  | k + 1, ps =>
    let next := dedup (ps.flatMap step)
    if next.isEmpty || next == ps then next else exactlyEnds step k next

/-- The table of optional copies: entry `q` of the result lists the ends of `k` nested optional
copies of the body started at `q`, for every position `q ≤ n`; each copy is preferred to
stopping when greedy, and stopping is preferred when lazy. -/
def optionalTable (n : Nat) (step : Nat → List Nat) (greedy : Bool) : Nat → Array (List Nat)
  | 0 => (List.range (n + 1)).toArray.map fun q => [q]
  | k + 1 =>
    let prev := optionalTable n step greedy k
    (List.range (n + 1)).toArray.map fun q =>
      let more := (step q).flatMap fun q' => prev[q']?.getD []
      dedup (if greedy then more ++ [q] else q :: more)

/-- One row of the loop table, for position `q`, given the rows of every later position: the ends
of the loop after an iteration that ended at `q`. Entering the body again at `q` and coming back
to `q` ends nothing new, so such ends are dropped. -/
def loopRow (step : Nat → List Nat) (greedy : Bool) (later : Nat → List Nat) (q : Nat) :
    List Nat :=
  let more := (step q).flatMap fun q' => if q' == q then [] else later q'
  dedup (if greedy then more ++ [q] else q :: more)

/-- The loop table: entry `q` of the result, for `p ≤ q ≤ n`, is the row of position `q`.
Rows are built from the end of the text backwards, since a body only moves forward. -/
def loopTable (n p : Nat) (step : Nat → List Nat) (greedy : Bool) : Array (List Nat) :=
  (List.range (n + 1 - p)).foldr
    (fun i (acc : Array (List Nat)) =>
      let q := p + i
      acc.set! q (loopRow step greedy (fun q' => acc[q']?.getD []) q))
    (Array.replicate (n + 1) [])

/-- The ends of a loop of at least one iteration started at `r`, given the loop table. -/
def plusEnds (step : Nat → List Nat) (table : Array (List Nat)) (r : Nat) : List Nat :=
  dedup ((step r).flatMap fun q => if q == r then [r] else table[q]?.getD [])

/-- The ends of a repetition of a body with the given one-copy ends `step`, on a text of
length `n`, started at `p`. -/
def repeatEnds (n : Nat) (step : Nat → List Nat) (low : Nat) (high : Option Nat) (greedy : Bool)
    (p : Nat) : List Nat :=
  let steps := (List.range (n + 1 - p)).toArray.map fun i => step (p + i)
  let stepAt := fun q => if p ≤ q then steps[q - p]?.getD [] else []
  match high with
  | some high =>
    let firsts := exactlyEnds stepAt low [p]
    if high ≤ low then firsts
    else
      let table := optionalTable n stepAt greedy (min (high - low) (n + 2))
      dedup (firsts.flatMap fun q => table[q]?.getD [])
  | none =>
    let table := loopTable n p stepAt greedy
    if low == 0 then
      let more := (stepAt p).flatMap fun q => if q == p then [p] else table[q]?.getD []
      dedup (if greedy then more ++ [p] else p :: more)
    else
      let firsts := exactlyEnds stepAt (low - 1) [p]
      dedup (firsts.flatMap (plusEnds stepAt table))

/-- The positions where a pattern started at `p` can end on the text, best first. -/
def ends (hay : Array Char) : Regex → Nat → List Nat
  | .empty, p => [p]
  | .chars s, p =>
    match hay[p]? with
    | some c => if s.contains c.toNat then [p + 1] else []
    | none => []
  | .look l, p => if l.holds hay p then [p] else []
  | .seq a b, p => dedup ((ends hay a p).flatMap (ends hay b))
  | .alt a b, p => dedup (ends hay a p ++ ends hay b p)
  | .many body low high greedy, p => repeatEnds hay.size (ends hay body) low high greedy p
  | .group _ body, p => ends hay body p

/-- The length of the preferred match at the start of the text, if any. -/
def firstMatch (pat : Regex) (cs : List Char) : Option Nat :=
  (ends cs.toArray pat 0).head?

end ScimFilter.Pattern
