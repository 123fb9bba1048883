import ScimFilter.Pattern.CharSet
import ScimFilter.Pattern.ByteRanges
import ScimFilter.Pattern.Footprint.Tally
import Std.Data.HashMap
/-!
The states of the automaton for one class of characters. A class within ASCII is one state with a
transition per range, and an empty state it leads to. Any other class is read as the UTF-8 byte
sequences of its ranges, in order, and is built differently in each direction.

Forwards, the sequences are merged into one automaton that shares common tails: the states along
the last sequence stay open, and when the next sequence leaves that path the open states beyond
the shared part are finished, deepest first. A finished state is looked up by its transitions in
a table of 10000 slots and reused when found; the slot is the FNV-1a hash of the transitions'
bounds and targets.

Backwards, every sequence becomes a chain of single-range states from a common end, read last
byte first, and a union state holds an alternative per sequence. A chain reuses a state made for
the same range and successor, found in a table of 1000 slots hashed the same way.

Either table keeps one entry per slot, the latest, so what is shared depends on the numbers of
the states; the tables start empty for every class.
-/

namespace ScimFilter.Pattern

/-- A transition of a finished state: a byte range and the number of the state it leads to. -/
abbrev Edge := Nat × Nat × Nat

/-- A state on the open path of a forward build: its transitions so far, and the range of its
last transition, whose target is not finished yet. -/
structure OpenState where
  edges : Array Edge := #[]
  last : Option (Nat × Nat) := none

/-- The transitions of an open state once its last one leads to `next`. -/
def OpenState.close (s : OpenState) (next : Nat) : Array Edge :=
  match s.last with
  | some (a, b) => s.edges.push (a, b, next)
  | none => s.edges

/-- The number of slots of the table of finished states of a forward build. -/
def forwardSlots : Nat := 10000

structure ForwardBuild where
  tally : Tally
  /-- The state every sequence ends in. -/
  target : Nat
  /-- The open states along the last sequence, from the start. -/
  path : Array OpenState
  /-- Finished states by slot: their transitions and number. -/
  finished : Std.HashMap Nat (Array Edge × Nat)

namespace ForwardBuild

/-- Finishes a state with the given transitions, reusing the state in its slot if that one has
the same transitions: the number of the state. -/
def finish (b : ForwardBuild) (edges : Array Edge) : Option (Nat × ForwardBuild) :=
  let slot := (fnv1a (edges.toList.flatMap fun (lo, hi, next) => [lo, hi, next])).toNat % forwardSlots
  let found := match b.finished[slot]? with
    | some (key, n) => if key == edges then some n else none
    | none => none
  match found with
  | some n => some (n, b)
  | none =>
    (b.tally.add (transitionBytes * edges.size)).map fun (n, t) =>
      (n, { b with tally := t, finished := b.finished.insert slot (edges, n) })

/-- Finishes the last `k` open states, deepest first, each leading to the one finished before
it and the deepest to `next`; then points the last transition of the state left on top to the
last one finished. -/
def closeDeepest : Nat → Nat → ForwardBuild → Option ForwardBuild
  | 0, next, b =>
    some { b with path := b.path.modify (b.path.size - 1) fun s => { edges := s.close next } }
  | k + 1, next, b =>
    match b.path.back? with
    | some s =>
      match ({ b with path := b.path.pop } : ForwardBuild).finish (s.close next) with
      | some (n, b') => closeDeepest k n b'
      | none => none
    | none => none

/-- Finishes the open states beyond the first `keep + 1`. -/
def closeAfter (b : ForwardBuild) (keep : Nat) : Option ForwardBuild :=
  closeDeepest (b.path.size - (keep + 1)) b.target b

/-- How many leading ranges of a sequence are the last ranges of the open states. -/
def sharedRanges : List (Nat × Nat) → List OpenState → Nat
  | r :: rs, s :: ss => if s.last == some r then sharedRanges rs ss + 1 else 0
  | _, _ => 0

/-- Adds a sequence: the open states it does not share are finished, and its other ranges open
new states. -/
def addSequence (b : ForwardBuild) (seq : List (Nat × Nat)) : Option ForwardBuild :=
  let shared := sharedRanges seq b.path.toList
  (b.closeAfter shared).bind fun b =>
    match seq.drop shared with
    | [] => none
    | r :: more =>
      let path := b.path.modify (b.path.size - 1) fun s => { s with last := some r }
      some { b with path := more.foldl (fun p r => p.push { last := some r }) path }

/-- Finishes every open state, the first one last. -/
def close (b : ForwardBuild) : Option Tally :=
  (b.closeAfter 0).bind fun b =>
    match b.path[0]? with
    | some root => (b.finish root.edges).map fun (_, b) => b.tally
    | none => none

end ForwardBuild

/-- Builds the forward automaton of a class from its byte sequences. -/
def forwardClass (t : Tally) (seqs : List (List (Nat × Nat))) : Option Tally :=
  (t.add 0).bind fun (target, t) =>
    let b : ForwardBuild := { tally := t, target, path := #[{}], finished := {} }
    (seqs.foldlM ForwardBuild.addSequence b).bind ForwardBuild.close

/-- The number of slots of the table of chain states of a backward build. -/
def backwardSlots : Nat := 1000

/-- The chain states of a backward build by slot: the successor and range of each, and its
number. -/
abbrev ChainTable := Std.HashMap Nat ((Nat × Nat × Nat) × Nat)

/-- Builds the chain of a sequence from its first range, each range a state leading to the
state of the range before it, `next` to begin with; states with the same range and successor
are reused from the table. -/
def chain : Nat → Tally → ChainTable → List (Nat × Nat) → Option (Tally × ChainTable)
  | _, t, table, [] => some (t, table)
  | next, t, table, (lo, hi) :: rest =>
    let slot := (fnv1a [next, lo, hi]).toNat % backwardSlots
    let found := match table[slot]? with
      | some (key, n) => if key == (next, lo, hi) then some n else none
      | none => none
    match found with
    | some n => chain n t table rest
    | none =>
      match t.add 0 with
      | some (n, t) => chain n t (table.insert slot ((next, lo, hi), n)) rest
      | none => none

/-- Builds the backward automaton of a class from its byte sequences: a union, a common end, and
a chain for each sequence. -/
def backwardClass (t : Tally) (seqs : List (List (Nat × Nat))) : Option Tally :=
  (t.addState 0).bind fun t =>
    (t.add 0).bind fun (finish, t) =>
      let step := fun (acc : Tally × ChainTable) (seq : List (Nat × Nat)) =>
        (chain finish acc.1 acc.2 seq).bind fun (t, table) =>
          (t.addLists alternativeBytes).map fun t => (t, table)
      (seqs.foldlM step (t, {})).map (·.1)

/-- Adds the states of a class, built forwards or backwards. -/
def classStates (forward : Bool) (s : CharSet) (t : Tally) : Option Tally :=
  if s.all (·.2 ≤ 0x7F) then
    (t.addState 0).bind fun t => t.addState (transitionBytes * s.size)
  else
    let seqs := s.toList.flatMap rangeSequences
    if forward then forwardClass t seqs else backwardClass t seqs

end ScimFilter.Pattern
