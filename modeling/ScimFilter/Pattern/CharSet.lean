import ScimFilter.Text.Ranges
import ScimFilter.Text.CaseFold
/-!
Sets of characters for patterns, kept as sorted, disjoint, non-adjacent inclusive ranges of code
points. Every operation renormalises, so equal sets have equal representations; complement is
taken within the code points `0 .. 0x10FFFF`, and a set that should exclude surrogates never
matters because text never holds one.
-/

namespace ScimFilter.Pattern

/-- A set of characters as sorted, disjoint, non-adjacent inclusive ranges of code points. -/
abbrev CharSet := Array (Nat × Nat)

namespace CharSet

def maxCode : Nat := 0x10FFFF

def empty : CharSet := #[]

def any : CharSet := #[(0, maxCode)]

def single (c : Nat) : CharSet := #[(c, c)]

/-- Adds a range to a reversed list of normalised ranges whose starts do not exceed its start. -/
def absorb : List (Nat × Nat) → Nat × Nat → List (Nat × Nat)
  | (s, e) :: rest, (a, b) => if a ≤ e + 1 then (s, max e b) :: rest else (a, b) :: (s, e) :: rest
  | [], r => [r]

/-- Sorts ranges, drops empty ones and merges those that overlap or touch. -/
def normalize (rs : List (Nat × Nat)) : CharSet :=
  let sorted := (rs.filter (fun r => r.1 ≤ r.2)).mergeSort (fun x y => x.1 ≤ y.1)
  (sorted.foldl absorb []).reverse.toArray

def union (a b : CharSet) : CharSet :=
  normalize (a.toList ++ b.toList)

/-- The gaps below and between normalised ranges, starting the search at `next`. -/
def gaps : List (Nat × Nat) → Nat → List (Nat × Nat)
  | [], next => if next ≤ maxCode then [(next, maxCode)] else []
  | (s, e) :: rest, next => (if next < s then [(next, s - 1)] else []) ++ gaps rest (e + 1)

def complement (a : CharSet) : CharSet :=
  (gaps a.toList 0).toArray

def inter (a b : CharSet) : CharSet :=
  complement (union (complement a) (complement b))

def diff (a b : CharSet) : CharSet :=
  inter a (complement b)

def symmDiff (a b : CharSet) : CharSet :=
  union (diff a b) (diff b a)

def contains (a : CharSet) (c : Nat) : Bool :=
  Text.RangeTable.contains a c

/-- The code points of a range that lie in a second range, as a list. -/
def codesIn (r : Nat × Nat) (lo hi : Nat) : List Nat :=
  let a := max r.1 lo
  let b := min r.2 hi
  if a ≤ b then (List.range (b + 1 - a)).map (· + a) else []

/-- One step around the case cycles: adds the next member of the case group of every member. -/
def foldStep (a : CharSet) : CharSet :=
  let extra := Text.caseCycle.toList.filterMap fun (c, d) =>
    if a.contains c then some (d, d) else none
  normalize (a.toList ++ extra)

/-- The set closed under simple case folding: each member brings its whole case group. Case
groups have at most four members, so three steps around the cycles reach all of them. -/
def foldCase (a : CharSet) : CharSet :=
  foldStep (foldStep (foldStep a))

/-- The other case of an ASCII letter, the code point itself otherwise. -/
def asciiOtherCase (c : Nat) : Nat :=
  if 0x41 ≤ c ∧ c ≤ 0x5A then c + 32
  else if 0x61 ≤ c ∧ c ≤ 0x7A then c - 32
  else c

/-- The set closed under ASCII case folding only. -/
def foldAsciiCase (a : CharSet) : CharSet :=
  let extra := a.toList.flatMap fun r =>
    (codesIn r 0x41 0x7A).map fun c => (asciiOtherCase c, asciiOtherCase c)
  normalize (a.toList ++ extra)

def isAscii (a : CharSet) : Bool :=
  a.all fun r => r.2 ≤ 0x7F

example : complement (complement #[(5, 9), (20, 30)]) = #[(5, 9), (20, 30)] := by decide

end CharSet

end ScimFilter.Pattern
