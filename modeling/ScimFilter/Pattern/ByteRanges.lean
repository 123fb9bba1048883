/-!
The UTF-8 encoding of a range of code points as sequences of byte ranges. The range is cut into
pieces whose code points all encode to the same number of bytes and differ only in whole blocks
of trailing continuation bytes; each piece is then one sequence of one to four byte ranges, and a
byte string encodes a code point of the range exactly when it matches one of the sequences.
Surrogates, which have no encoding, are left out.

The cuts are made in a fixed order, so the sequences come out in increasing order of code point.
An automaton built from a class follows them in that order, and its size depends on it.
-/

namespace ScimFilter.Pattern

def utf8Encode (c : Nat) : List Nat :=
  if c < 0x80 then [c]
  else if c < 0x800 then [0xC0 + c / 64, 0x80 + c % 64]
  else if c < 0x10000 then [0xE0 + c / 4096, 0x80 + c / 64 % 64, 0x80 + c % 64]
  else [0xF0 + c / 262144, 0x80 + c / 4096 % 64, 0x80 + c / 64 % 64, 0x80 + c % 64]

/-- The largest code point whose encoding takes `n` bytes, for `n` from 1 to 3. -/
def largestOfLength (n : Nat) : Nat :=
  if n ≤ 1 then 0x7F else if n = 2 then 0x7FF else 0xFFFF

/-- Where to cut `lo..hi` so that both pieces have one encoded length: the end of the first
piece, if the range spans two lengths. -/
def lengthCut? (lo hi : Nat) : Option Nat :=
  [1, 2, 3].findSome? fun n =>
    let m := largestOfLength n
    if lo ≤ m && m < hi then some m else none

/-- Where to cut `lo..hi` so that the trailing bytes of a piece run over whole blocks of `64 ^ i`
code points, for the first `i` from 1 to 3 at which the ends lie in different blocks and one of
them is not on a block boundary: the end of the first piece. -/
def blockCut? (lo hi : Nat) : Option Nat :=
  [1, 2, 3].findSome? fun i =>
    let b := Nat.pow 64 i
    if lo / b == hi / b then none
    else if lo % b != 0 then some (lo / b * b + b - 1)
    else if hi % b != b - 1 then some (hi / b * b - 1)
    else none

/-- The byte-range sequences of the code points `lo..hi`, in increasing order. Each cut makes
both pieces smaller and no piece is cut more than about ten times over, so `fuel` of 32 is
always enough. -/
def byteSequences : Nat → Nat → Nat → List (List (Nat × Nat))
  | 0, _, _ => []
  | fuel + 1, lo, hi =>
    if lo < 0xE000 && 0xD7FF < hi then
      byteSequences fuel lo 0xD7FF ++ byteSequences fuel 0xE000 hi
    else if hi < lo then []
    else match lengthCut? lo hi with
      | some m => byteSequences fuel lo m ++ byteSequences fuel (m + 1) hi
      | none =>
        if hi ≤ 0x7F then [[(lo, hi)]]
        else match blockCut? lo hi with
          | some m => byteSequences fuel lo m ++ byteSequences fuel (m + 1) hi
          | none => [(utf8Encode lo).zip (utf8Encode hi)]

def rangeSequences (r : Nat × Nat) : List (List (Nat × Nat)) :=
  byteSequences 32 r.1 r.2

example : rangeSequences (0, 0x10FFFF) =
    [[(0, 0x7F)], [(0xC2, 0xDF), (0x80, 0xBF)], [(0xE0, 0xE0), (0xA0, 0xBF), (0x80, 0xBF)],
      [(0xE1, 0xEC), (0x80, 0xBF), (0x80, 0xBF)], [(0xED, 0xED), (0x80, 0x9F), (0x80, 0xBF)],
      [(0xEE, 0xEF), (0x80, 0xBF), (0x80, 0xBF)],
      [(0xF0, 0xF0), (0x90, 0xBF), (0x80, 0xBF), (0x80, 0xBF)],
      [(0xF1, 0xF3), (0x80, 0xBF), (0x80, 0xBF), (0x80, 0xBF)],
      [(0xF4, 0xF4), (0x80, 0x8F), (0x80, 0xBF), (0x80, 0xBF)]] := by
  decide

end ScimFilter.Pattern
