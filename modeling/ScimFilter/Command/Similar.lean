/-!
Similarity of words, to suggest a known name for a mistyped one. The measure is the Jaro
similarity: characters match when equal and not farther apart than half the longer word less
one; with `m` matches and `t` half-transpositions it is `(m/|a| + m/|b| + (m - t)/m) / 3`. A
name is suggested when its similarity is above 0.7; of equally similar names the last one.
-/

namespace ScimFilter.Command

/-- Marks, for each character of `a`, whether it matches a not yet matched character of `b`
within the window; answers the marks of `a` and of `b`. -/
def jaroMatches (a b : Array Char) : Array Bool × Array Bool :=
  let window := max a.size b.size / 2 - 1
  (List.range a.size).foldl (fun (fa, fb) i =>
    let lo := i - window
    let hi := min b.size (i + window + 1)
    let c := a.getD i ' '
    match (List.range hi).find? (fun j => lo ≤ j && b.getD j ' ' == c && !fb.getD j true) with
    | some j => (fa.set! i true, fb.set! j true)
    | none => (fa, fb))
    (Array.replicate a.size false, Array.replicate b.size false)

def jaro (a b : Array Char) : Float :=
  if a.size == 0 && b.size == 0 then 1.0
  else if a.size == 0 || b.size == 0 then 0.0
  else
    let (fa, fb) := jaroMatches a b
    let ma := (List.range a.size).filterMap fun i => if fa.getD i false then a[i]? else none
    let mb := (List.range b.size).filterMap fun j => if fb.getD j false then b[j]? else none
    let m := ma.length
    let t := ((List.zipWith (· != ·) ma mb).count true) / 2
    if m == 0 then 0.0
    else
      (m.toFloat / a.size.toFloat + m.toFloat / b.size.toFloat +
        (m - t).toFloat / m.toFloat) / 3.0

/-- The names similar to a word, least similar first; equally similar names keep their order. -/
def similarNames (word : String) (names : List String) : List String :=
  let scored := names.filterMap fun n =>
    let s := jaro word.toList.toArray n.toList.toArray
    if s > 0.7 then some (s, n) else none
  (scored.mergeSort (fun x y => x.1 ≤ y.1)).map (·.2)

/-- The most similar name, if any is similar enough. -/
def suggestName (word : String) (names : List String) : Option String :=
  (similarNames word names).getLast?

end ScimFilter.Command
