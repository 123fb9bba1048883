/-!
Counting the memory of a compiled automaton while it is built. An automaton is a list of states;
every state takes the same 32 bytes, and a state with several transitions or alternatives also
holds a list, 8 bytes a transition and 4 an alternative. A pattern is refused when its automaton
would take more than 10 MiB.

States are numbered in the order they are added. Their numbers matter because finished states
are remembered in tables indexed by a hash of the numbers they point to, and a slot holds one
state at a time: which states are shared, and so how many there are, depends on the numbers.

Memory only grows, so a build can stop at the first addition that passes the limit.
-/

namespace ScimFilter.Pattern

/-- The bytes every state takes. -/
def stateBytes : Nat := 32

/-- The bytes of one transition in the list of a state with several. -/
def transitionBytes : Nat := 8

/-- The bytes of one alternative in the list of a union state. -/
def alternativeBytes : Nat := 4

/-- The most memory an automaton may take: 10 MiB. -/
def memoryLimit : Nat := 10 * 1024 * 1024

/-- The states of an automaton added so far, and the bytes of their lists. -/
structure Tally where
  states : Nat := 0
  lists : Nat := 0
  deriving Repr

namespace Tally

def bytes (t : Tally) : Nat :=
  stateBytes * t.states + t.lists

/-- Keeps a tally that stays within the limit. -/
def check (t : Tally) : Option Tally :=
  if t.bytes ≤ memoryLimit then some t else none

/-- Adds a state with a list of `lists` bytes: the new state's number and the new tally, or
`none` past the limit. -/
def add (t : Tally) (lists : Nat) : Option (Nat × Tally) :=
  (check { states := t.states + 1, lists := t.lists + lists }).map fun t' => (t.states, t')

def addState (t : Tally) (lists : Nat) : Option Tally :=
  (t.add lists).map (·.2)

def addStates (t : Tally) (n : Nat) : Option Tally :=
  check { t with states := t.states + n }

/-- Adds `n` bytes to the lists of states already added. -/
def addLists (t : Tally) (n : Nat) : Option Tally :=
  check { t with lists := t.lists + n }

/-- Points the end of a part to what follows it. An end that is a union state gains an
alternative; any other end just records its successor. -/
def link (t : Tally) (fromUnion : Bool) : Option Tally :=
  if fromUnion then t.addLists alternativeBytes else some t

/-- Runs a step `n` times, stopping at the first that passes the limit. -/
def iterate (step : Tally → Option Tally) : Nat → Tally → Option Tally
  | 0, t => some t
  | n + 1, t =>
    match step t with
    | some t' => iterate step n t'
    | none => none

end Tally

/-- The 64-bit FNV-1a hash of a list of numbers, each taken as one 64-bit word. -/
def fnv1a (xs : List Nat) : UInt64 :=
  xs.foldl (fun h x => (h ^^^ x.toUInt64) * 1099511628211) 14695981039346656037

/-- Adding states keeps the tally within the limit. -/
theorem Tally.bytes_le_of_add {t t' : Tally} {n lists : Nat} (h : t.add lists = some (n, t')) :
    t'.bytes ≤ memoryLimit := by
  unfold add check at h
  split at h
  · simp only [Option.map_some, Option.some.injEq, Prod.mk.injEq] at h
    obtain ⟨-, rfl⟩ := h
    assumption
  · simp at h

end ScimFilter.Pattern
