import ScimFilter.Pattern.Footprint.Tally
/-!
The states of the automaton for an alternation of literals, built as a trie of their bytes
(read backwards for a backward automaton). The branches are added in order; a node records
where a branch ended, since a later branch through that node must be tried only after the match
there. Its transitions are thus cut into chunks: those added before each branch ended, and the
rest.

Each inner node of the trie becomes a union state with an alternative per non-empty chunk, plus
one for each match between chunks; each non-empty chunk becomes one state with a transition per
byte (a list when it has two or more). All matches lead to one shared end state.
-/

namespace ScimFilter.Pattern

/-- A node of a trie of byte strings: its transitions as bytes and child nodes, and the ends of
the chunks closed by matches. -/
structure TrieNode where
  edges : Array (Nat × Nat) := #[]
  chunks : Array Nat := #[]

namespace TrieNode

/-- Where the open chunk of transitions starts. -/
def openStart (n : TrieNode) : Nat :=
  n.chunks.back?.getD 0

/-- Records a match at the node; a leaf already matching records nothing more. -/
def markMatch (n : TrieNode) : TrieNode :=
  if n.edges.isEmpty && !n.chunks.isEmpty then n
  else { n with chunks := n.chunks.push n.edges.size }

/-- The sizes of the chunks of the node, the open one last. -/
def chunkSizes (n : TrieNode) : List Nat :=
  let ends := n.chunks.toList ++ [n.edges.size]
  (ends.zip (0 :: n.chunks.toList)).map fun (e, s) => e - s

end TrieNode

/-- Follows a byte from a node within its open chunk, adding a child when there is none: the
child's index and the trie. -/
def trieStep (trie : Array TrieNode) (node b : Nat) : Nat × Array TrieNode :=
  let n := trie.getD node {}
  match (n.edges.extract n.openStart n.edges.size).find? (·.1 == b) with
  | some (_, child) => (child, trie)
  | none =>
    let child := trie.size
    (child, (trie.push {}).modify node fun n => { n with edges := n.edges.push (b, child) })

/-- Adds a byte string to a trie and marks its end. -/
def trieInsert (trie : Array TrieNode) (bytes : List Nat) : Array TrieNode :=
  let (last, trie) := bytes.foldl (fun (node, trie) b => trieStep trie node b) (0, trie)
  trie.modify last TrieNode.markMatch

def trieOf (strings : List (List Nat)) : Array TrieNode :=
  strings.foldl trieInsert #[{}]

/-- The states and list bytes of the automaton of a trie: the shared end state, and for each
inner node its union and a state per non-empty chunk. -/
def trieCost (trie : Array TrieNode) : Nat × Nat :=
  trie.foldl (fun (states, lists) n =>
    if n.edges.isEmpty then (states, lists)
    else
      let sizes := n.chunkSizes
      let filled := (sizes.filter (0 < ·)).length
      let listed := (sizes.filter (2 ≤ ·)).foldl (· + ·) 0
      (states + filled + 1,
        lists + transitionBytes * listed + alternativeBytes * (filled + sizes.length - 1)))
    (1, 0)

/-- Adds the states of an alternation of literals given as byte strings. -/
def literalStates (strings : List (List Nat)) (t : Tally) : Option Tally :=
  let (states, lists) := trieCost (trieOf strings)
  (t.addStates states).bind (·.addLists lists)

example : trieCost (trieOf [[1, 2], [1, 3]]) = (5, 2 * 8 + 4 + 4) := by decide

end ScimFilter.Pattern
