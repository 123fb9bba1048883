/-!
Classes of code points. Blank characters are the Unicode `White_Space` property: blanks form
whitespace tokens, and trimming removes them. Core's `Char.isWhitespace` knows only four ASCII
blanks, so the twenty-five code points are listed here. Larger classes are sets of code points
given as sorted, disjoint, inclusive ranges, searched by halving.
-/

namespace ScimFilter.Text

/-- A character is blank when it has the Unicode `White_Space` property. -/
def isBlank (c : Char) : Bool :=
  let n := c.toNat
  (0x09 ≤ n && n ≤ 0x0D) || n == 0x20 || n == 0x85 || n == 0xA0 || n == 0x1680 ||
    (0x2000 ≤ n && n ≤ 0x200A) || n == 0x2028 || n == 0x2029 || n == 0x202F ||
    n == 0x205F || n == 0x3000

def trimBlank (cs : List Char) : List Char :=
  ((cs.dropWhile isBlank).reverse.dropWhile isBlank).reverse

/-- Every blank that core knows is blank here too. -/
theorem isBlank_of_isWhitespace (c : Char) (h : c.isWhitespace = true) : isBlank c = true := by
  simp only [Char.isWhitespace, Bool.or_eq_true, decide_eq_true_eq] at h
  rcases h with ((h | h) | h) | h <;> simp [isBlank, h]

example : isBlank ' ' = true ∧ isBlank '\u200B' = false ∧ isBlank '\u3000' = true := by
  decide

/-- Sorted, disjoint, inclusive ranges of code points. -/
abbrev RangeTable := Array (Nat × Nat)

def RangeTable.contains (table : RangeTable) (n : Nat) : Bool :=
  go 0 table.size
where
  /-- Searches the ranges with index in `[lo, hi)`. -/
  go (lo hi : Nat) : Bool :=
    if lo < hi then
      let mid := (lo + hi) / 2
      match table[mid]? with
      | some (a, b) => if n < a then go lo mid else if b < n then go (mid + 1) hi else true
      | none => false
    else false
  termination_by hi - lo

/-- Ranges of code points, each tagged with the index of the value it belongs to. -/
abbrev TaggedRanges := Array (Nat × Nat × Nat)

/-- The ranges tagged with index `i`, in table order. -/
def TaggedRanges.select (table : TaggedRanges) (i : Nat) : RangeTable :=
  table.filterMap fun (a, b, j) => if j == i then some (a, b) else none

/-- Pairs of a code point and a value, sorted by the code point. -/
abbrev PairTable := Array (Nat × Nat)

end ScimFilter.Text
