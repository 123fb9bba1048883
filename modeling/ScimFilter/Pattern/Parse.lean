import ScimFilter.Pattern.Basic
import ScimFilter.Pattern.Classes
import ScimFilter.Pattern.Property
import ScimFilter.Text.Alphanumeric
/-!
Reading pattern text into a `Regex`. The language is the usual one of leftmost-first regular
expressions: literals, `.`, escapes, bracketed classes with nesting and the set operators `&&`,
`--` and `~~`, groups (plain, named and non-capturing), flag groups such as `(?i)` and `(?x:..)`,
alternation, and repetition by `*`, `+`, `?` and counts, each with a lazy form.

Flags hold from where they are set to the end of the enclosing group, across its alternatives.
Case-insensitive literals and classes are closed under simple case folding; a bracketed class is
closed before it is negated. Without the `u` flag, classes are ASCII and one that could match a
character outside ASCII is refused. Back-references and look-around are refused.

The reader keeps an explicit stack of open groups, so one loop of single steps reads the whole
text. Every reader of a part of the text leaves no more text than it was given (the `_length`
lemmas beside each), and every step of the loop reads at least one character
(`readStep_length`); the loops recurse on the text left, with these lemmas as their termination
proofs.
-/

namespace ScimFilter.Pattern

inductive PatternError where
  | unclosedGroup
  | unopenedGroup
  | unclosedClass
  | invalidRange
  | classInRange
  | assertionInClass
  | badEscape
  | backreference
  | lookAround
  | missingRepetition
  | badRepetition
  | badFlags
  | badGroupName
  | unknownProperty
  | outsideAscii
  /-- Groups, classes, repetitions and alternations nest more than 250 deep. -/
  | nestingTooDeep
  /-- The compiled automaton would take more than the memory allowed to one pattern. -/
  | tooLarge
  deriving DecidableEq, Repr

/-- The flags in force at a point of a pattern. -/
structure Flags where
  /-- `i`: letters match either case. -/
  caseless : Bool := false
  /-- `m`: `^` and `$` match at line ends too. -/
  multiLine : Bool := false
  /-- `s`: `.` matches a line feed too. -/
  dotAll : Bool := false
  /-- `U`: repetitions are lazy unless marked with `?`. -/
  swapGreed : Bool := false
  /-- `u`: classes, `.` and word boundaries use Unicode. -/
  unicode : Bool := true
  /-- `x`: blanks and `#` comments between items are ignored. -/
  verbose : Bool := false
  /-- `R`: a carriage return also ends a line. -/
  crlf : Bool := false
  deriving DecidableEq, Repr

namespace Flags

def set (f : Flags) (letter : Char) (on : Bool) : Flags :=
  match letter with
  | 'i' => { f with caseless := on }
  | 'm' => { f with multiLine := on }
  | 's' => { f with dotAll := on }
  | 'U' => { f with swapGreed := on }
  | 'u' => { f with unicode := on }
  | 'x' => { f with verbose := on }
  | 'R' => { f with crlf := on }
  | _ => f

def wordKind (f : Flags) : WordKind :=
  if f.unicode then .unicode else .ascii

/-- Closes a set under case folding when the `i` flag is on. -/
def fold (f : Flags) (s : CharSet) : CharSet :=
  if !f.caseless then s
  else if f.unicode then CharSet.foldCase s
  else CharSet.foldAsciiCase s

/-- Refuses a class that could match outside ASCII when the `u` flag is off. -/
def checkAscii (f : Flags) (s : CharSet) : Except PatternError CharSet :=
  if f.unicode || CharSet.isAscii s then .ok s else .error .outsideAscii

end Flags

def isFlagLetter (c : Char) : Bool :=
  c == 'i' || c == 'm' || c == 's' || c == 'U' || c == 'u' || c == 'x' || c == 'R'

/-- Skips blanks and `#` comments when `verbose` is on; `inComment` says a comment is open. -/
def skipSpace (verbose : Bool) (inComment : Bool := false) : List Char → List Char
  | [] => []
  | c :: rest =>
    if inComment then skipSpace verbose (c != '\n') rest
    else if verbose && Text.isBlank c then skipSpace verbose false rest
    else if verbose && c == '#' then skipSpace verbose true rest
    else c :: rest

/-- Skipping never lengthens the text. -/
theorem length_skipSpace_le (verbose inComment : Bool) (cs : List Char) :
    (skipSpace verbose inComment cs).length ≤ cs.length := by
  induction cs generalizing inComment with
  | nil => simp [skipSpace]
  | cons c rest ih =>
    simp only [skipSpace]
    split
    · have := ih (c != '\n'); simp; omega
    · split
      · have := ih false; simp; omega
      · split
        · have := ih true; simp; omega
        · simp

/-- A character read after skipping leaves less text than there was. -/
theorem length_lt_of_skipSpace {verbose inComment : Bool} {cs rest : List Char} {c : Char}
    (h : skipSpace verbose inComment cs = c :: rest) : rest.length < cs.length := by
  have hle := length_skipSpace_le verbose inComment cs
  rw [h, List.length_cons] at hle
  omega

/-- Skipping after a character leaves less text than the character and what follows it. -/
theorem length_skipSpace_lt_cons (verbose : Bool) (c : Char) (rest : List Char) :
    (skipSpace verbose false rest).length < (c :: rest).length :=
  Nat.lt_succ_of_le (length_skipSpace_le verbose false rest)

def hexValue? (c : Char) : Option Nat :=
  if '0' ≤ c ∧ c ≤ '9' then some (c.toNat - '0'.toNat)
  else if 'a' ≤ c ∧ c ≤ 'f' then some (c.toNat - 'a'.toNat + 10)
  else if 'A' ≤ c ∧ c ≤ 'F' then some (c.toNat - 'A'.toNat + 10)
  else none

/-- The character of a code point, if it is a Unicode scalar value. -/
def scalar? (n : Nat) : Option Char :=
  if n < 0xD800 ∨ (0xDFFF < n ∧ n < 0x110000) then some (Char.ofNat n) else none

/-- Reads hexadecimal digits up to a closing brace, skipping blanks in verbose mode; `count`
digits worth `value` are read so far. -/
def hexBraced (verbose : Bool) (count value : Nat) (cs : List Char) :
    Except PatternError (Nat × List Char) :=
  match h : skipSpace verbose false cs with
  | [] => .error .badEscape
  | '}' :: rest => if count == 0 then .error .badEscape else .ok (value, rest)
  | c :: rest =>
    have _hlt : rest.length < cs.length := length_lt_of_skipSpace h
    match hexValue? c with
    | some d => hexBraced verbose (count + 1) (16 * value + d) rest
    | none => .error .badEscape
termination_by cs.length
decreasing_by exact _hlt

theorem hexBraced_length {verbose : Bool} {count value n : Nat} {cs rest : List Char} :
    hexBraced verbose count value cs = .ok (n, rest) → rest.length ≤ cs.length := by
  fun_induction hexBraced verbose count value cs with
  | case3 count value cs rest' hs hcount =>
    rintro ⟨⟩
    exact Nat.le_of_lt (length_lt_of_skipSpace hs)
  | case4 count value cs c rest' hc hs hlt d hd ih =>
    intro h
    exact Nat.le_trans (ih h) (Nat.le_of_lt hlt)
  | case1 | case2 | case5 => rintro ⟨⟩

/-- Reads exactly `count` hexadecimal digits, skipping blanks between them in verbose mode. -/
def hexFixed (verbose : Bool) : Nat → Nat → List Char → Except PatternError (Nat × List Char)
  | 0, value, cs => .ok (value, cs)
  | count + 1, value, cs =>
    match skipSpace verbose false cs with
    | c :: rest =>
      match hexValue? c with
      | some d => hexFixed verbose count (16 * value + d) rest
      | none => .error .badEscape
    | [] => .error .badEscape

theorem hexFixed_length {verbose : Bool} {count value n : Nat} {cs rest : List Char}
    (h : hexFixed verbose count value cs = .ok (n, rest)) : rest.length ≤ cs.length := by
  induction count generalizing value cs with
  | zero =>
    cases h
    exact Nat.le_refl _
  | succ count ih =>
    rw [hexFixed] at h
    split at h
    · rename_i c rest' hs
      split at h
      · exact Nat.le_trans (ih h) (Nat.le_of_lt (length_lt_of_skipSpace hs))
      · cases h
    · cases h

inductive Escape where
  | char (c : Char)
  | set (s : CharSet)
  | look (l : Look)

/-- Whether an escaped character stands for itself: the meta characters, and every other ASCII
character that is neither a letter nor a digit, except `<` and `>`. -/
def isEscapable (c : Char) : Bool :=
  c.toNat < 0x80 && !c.isAlphanum && c != '<' && c != '>'

/-- Reads a hexadecimal escape after its letter: `\x` takes two digits, `\u` four and `\U`
eight, and any of them may instead take a braced number. -/
def hexEscape (f : Flags) (digits : Nat) (cs : List Char) : Except PatternError (Escape × List Char) :=
  match skipSpace f.verbose false cs with
  | [] => .error .badEscape
  | '{' :: rest =>
    match hexBraced f.verbose 0 0 rest with
    | .ok (n, rest') =>
      match scalar? n with
      | some c => .ok (.char c, rest')
      | none => .error .badEscape
    | .error e => .error e
  | cs' =>
    match hexFixed f.verbose digits 0 cs' with
    | .ok (n, rest') =>
      if !f.unicode && digits == 2 && 0x80 ≤ n then .error .outsideAscii
      else match scalar? n with
        | some c => .ok (.char c, rest')
        | none => .error .badEscape
    | .error e => .error e

theorem hexEscape_length {f : Flags} {digits : Nat} {cs rest : List Char} {e : Escape}
    (h : hexEscape f digits cs = .ok (e, rest)) : rest.length ≤ cs.length := by
  rw [hexEscape] at h
  split at h
  · cases h
  · rename_i more hs
    split at h
    · rename_i n rest' hbraced
      split at h
      · cases h
        exact Nat.le_trans (hexBraced_length hbraced) (Nat.le_of_lt (length_lt_of_skipSpace hs))
      · cases h
    · cases h
  · split at h
    · rename_i n rest' hfixed
      have hle : rest'.length ≤ cs.length :=
        Nat.le_trans (hexFixed_length hfixed) (length_skipSpace_le _ _ _)
      split at h
      · cases h
      · split at h
        · cases h
          exact hle
        · cases h
    · cases h

/-- Reads the characters of a braced name up to its `}`, skipping blanks and comments before
each character in verbose mode; `acc` holds the characters read so far, latest first. `none`
if the text ends first. -/
def bracedName (verbose : Bool) (acc cs : List Char) : Option (List Char × List Char) :=
  match h : skipSpace verbose false cs with
  | [] => none
  | '}' :: rest => some (acc.reverse, rest)
  | c :: rest =>
    have _hlt : rest.length < cs.length := length_lt_of_skipSpace h
    bracedName verbose (c :: acc) rest
termination_by cs.length
decreasing_by exact _hlt

theorem bracedName_length {verbose : Bool} {acc cs name rest : List Char} :
    bracedName verbose acc cs = some (name, rest) → rest.length ≤ cs.length := by
  fun_induction bracedName verbose acc cs with
  | case2 acc cs rest' hs =>
    rintro ⟨⟩
    exact Nat.le_of_lt (length_lt_of_skipSpace hs)
  | case3 acc cs c rest' hc hs hlt ih =>
    intro h
    exact Nat.le_trans (ih h) (Nat.le_of_lt hlt)
  | case1 => rintro ⟨⟩

/-- Reads the name of a `\p` or `\P` class after its letter, one letter or a braced name. -/
def propertyName (f : Flags) (cs : List Char) : Except PatternError (String × List Char) :=
  match skipSpace f.verbose false cs with
  | [] => .error .badEscape
  | '{' :: rest =>
    match bracedName f.verbose [] rest with
    | some (name, rest') => .ok (String.ofList name, rest')
    | none => .error .badEscape
  | '\\' :: _ => .error .badEscape
  | c :: rest => .ok (String.ofList [c], rest)

theorem propertyName_length {f : Flags} {cs rest : List Char} {name : String}
    (h : propertyName f cs = .ok (name, rest)) : rest.length ≤ cs.length := by
  rw [propertyName] at h
  split at h
  · cases h
  · rename_i more hs
    split at h
    · rename_i name' rest' hname
      cases h
      exact Nat.le_trans (bracedName_length hname) (Nat.le_of_lt (length_lt_of_skipSpace hs))
    · cases h
  · cases h
  · rename_i c more _ _ hs
    cases h
    exact Nat.le_of_lt (length_lt_of_skipSpace hs)

/-- Reads a `\p` or `\P` class after its letter. The class is complemented when the letter is
`P` or the name says so with `!=`, but not both. -/
def propertyEscape (f : Flags) (letter : Char) (cs : List Char) :
    Except PatternError (Escape × List Char) :=
  match propertyName f cs with
  | .ok (name, rest) =>
    if !f.unicode then .error .outsideAscii
    else match propertyClass? name with
      | some (s, negated) =>
        let s := f.fold s
        .ok (.set (if (letter == 'P') != negated then CharSet.complement s else s), rest)
      | none => .error .unknownProperty
  | .error e => .error e

theorem propertyEscape_length {f : Flags} {letter : Char} {cs rest : List Char} {e : Escape}
    (h : propertyEscape f letter cs = .ok (e, rest)) : rest.length ≤ cs.length := by
  rw [propertyEscape] at h
  split at h
  · rename_i name rest' hname
    split at h
    · cases h
    · split at h
      · cases h
        exact propertyName_length hname
      · cases h
  · cases h

/-- The kind of a special word boundary written `\b{name}`. -/
def specialBoundary? (w : WordKind) : String → Option Look
  | "start" => some (.wordStart w)
  | "end" => some (.wordEnd w)
  | "start-half" => some (.wordStartHalf w)
  | "end-half" => some (.wordEndHalf w)
  | _ => none

/-- Whether a character may appear in the name of a special word boundary. -/
def isBoundaryNameChar (c : Char) : Bool :=
  c.isAlpha || c == '-'

/-- Reads the letters and `-` of a special word boundary's name, skipping blanks and comments
after each in verbose mode; returns the name and the text after it. -/
def boundaryName (verbose : Bool) : List Char → List Char × List Char
  | c :: rest =>
    if isBoundaryNameChar c then
      let (name, after) := boundaryName verbose (skipSpace verbose false rest)
      (c :: name, after)
    else ([], c :: rest)
  | [] => ([], [])
termination_by cs => cs.length
decreasing_by exact length_skipSpace_lt_cons verbose c rest

theorem boundaryName_length (verbose : Bool) (cs : List Char) :
    (boundaryName verbose cs).2.length ≤ cs.length := by
  fun_induction boundaryName verbose cs with
  | case1 c rest hname name after hcall ih =>
    rw [hcall] at ih
    exact Nat.le_trans ih (Nat.le_of_lt (length_skipSpace_lt_cons verbose c rest))
  | case2 | case3 => exact Nat.le_refl _

/-- Reads what follows `\b`: a special boundary `{start}`, `{end}`, `{start-half}` or
`{end-half}`, or else a plain boundary, in which case a following brace is left for a count. -/
def boundaryEscape (f : Flags) (cs : List Char) : Except PatternError (Escape × List Char) :=
  let w := f.wordKind
  match cs with
  | '{' :: rest =>
    match skipSpace f.verbose false rest with
    | [] => .error .badEscape
    | c :: more =>
      if !isBoundaryNameChar c then .ok (.look (.boundary w), cs)
      else
        match boundaryName f.verbose (c :: more) with
        | (name, '}' :: rest') =>
          match specialBoundary? w (String.ofList name) with
          | some l => .ok (.look l, rest')
          | none => .error .badEscape
        | _ => .error .badEscape
  | _ => .ok (.look (.boundary w), cs)

theorem boundaryEscape_length {f : Flags} {cs rest : List Char} {e : Escape}
    (h : boundaryEscape f cs = .ok (e, rest)) : rest.length ≤ cs.length := by
  unfold boundaryEscape at h
  dsimp only at h
  split at h
  · rename_i after
    split at h
    · cases h
    · rename_i c more hs
      split at h
      · cases h
        exact Nat.le_refl _
      · split at h
        · rename_i name rest' hname
          split at h
          · cases h
            have hle := boundaryName_length f.verbose (c :: more)
            rw [hname] at hle
            have hlt := length_lt_of_skipSpace hs
            simp only [List.length_cons] at hle hlt ⊢
            omega
          · cases h
        · cases h
  · cases h
    exact Nat.le_refl _

/-- The escapes of one letter that read nothing after it: the shorthand classes, the escaped
meta characters, the control characters and the assertions. -/
def letterEscape (f : Flags) (c : Char) : Except PatternError Escape :=
  match Shorthand.ofLetter? c with
  | some k =>
    let s := if f.unicode then k.unicodeSet else k.asciiSet
    let s := if c.isUpper then CharSet.complement s else s
    (f.checkAscii s).map .set
  | none =>
    if isEscapable c then .ok (.char c)
    else match c with
    | 'a' => .ok (.char '\x07')
    | 'f' => .ok (.char '\x0C')
    | 't' => .ok (.char '\t')
    | 'n' => .ok (.char '\n')
    | 'r' => .ok (.char '\r')
    | 'v' => .ok (.char '\x0B')
    | 'A' => .ok (.look .textStart)
    | 'z' => .ok (.look .textEnd)
    | 'B' => .ok (.look (.notBoundary f.wordKind))
    | '<' => .ok (.look (.wordStart f.wordKind))
    | '>' => .ok (.look (.wordEnd f.wordKind))
    | _ => .error .badEscape

/-- Reads an escape after its backslash. A digit would be a back-reference; `x`, `u` and `U`
read a code, `p` and `P` a property and `b` a boundary; every other letter stands alone. -/
def escape (f : Flags) : List Char → Except PatternError (Escape × List Char)
  | [] => .error .badEscape
  | c :: rest =>
    if c.isDigit then .error .backreference
    else if c == 'x' then hexEscape f 2 rest
    else if c == 'u' then hexEscape f 4 rest
    else if c == 'U' then hexEscape f 8 rest
    else if c == 'p' || c == 'P' then propertyEscape f c rest
    else if c == 'b' then boundaryEscape f rest
    else (letterEscape f c).map (·, rest)

/-- An escape reads at least its letter. -/
theorem escape_length {f : Flags} {cs rest : List Char} {e : Escape}
    (h : escape f cs = .ok (e, rest)) : rest.length < cs.length := by
  match cs, h with
  | c :: more, h =>
    have hmore : rest.length ≤ more.length := by
      simp only [escape] at h
      split at h
      · cases h
      split at h
      · exact hexEscape_length h
      split at h
      · exact hexEscape_length h
      split at h
      · exact hexEscape_length h
      split at h
      · exact propertyEscape_length h
      split at h
      · exact boundaryEscape_length h
      cases hl : letterEscape f c with
      | error err =>
        rw [hl] at h
        cases h
      | ok l =>
        rw [hl] at h
        cases h
        exact Nat.le_refl _
    exact Nat.lt_succ_of_le hmore

inductive SetOp where
  | inter
  | diff
  | symmDiff

def SetOp.apply : SetOp → CharSet → CharSet → CharSet
  | .inter => CharSet.inter
  | .diff => CharSet.diff
  | .symmDiff => CharSet.symmDiff

/-- The items of a class read since its start or its last set operator: their union, how many
there are, and the deepest nesting among them. -/
structure ClassItems where
  set : CharSet := CharSet.empty
  count : Nat := 0
  depth : Nat := 0

def ClassItems.add (u : ClassItems) (s : CharSet) (depth : Nat) : ClassItems :=
  { set := u.set.union s, count := u.count + 1, depth := max u.depth depth }

/-- The nesting of the items taken as one operand: one item is as deep as it is, and several
form a union one level deeper. -/
def ClassItems.nesting (u : ClassItems) : Nat :=
  if 2 ≤ u.count then u.depth + 1 else u.depth

/-- The operator of a class waiting for its right operand, with its left operand's set and
nesting. -/
abbrev PendingOp := Option (SetOp × CharSet × Nat)

/-- Applies the pending operator of a class to its right operand; the operands of an operator
are closed under case folding first. -/
def combine (f : Flags) : PendingOp → CharSet → CharSet
  | none, s => s
  | some (op, lhs, _), s => op.apply (f.fold lhs) (f.fold s)

/-- The nesting of a class's operand once the pending operator is applied: an operator is one
level deeper than its operands. -/
def combineNesting : PendingOp → ClassItems → Nat
  | none, u => u.nesting
  | some (_, _, d), u => max d u.nesting + 1

/-- The `^` that negates an ASCII class, if the name starts with one. -/
def caretNegation : List Char → Bool × List Char
  | '^' :: r => (true, r)
  | r => (false, r)

theorem caretNegation_length (cs : List Char) : (caretNegation cs).2.length ≤ cs.length := by
  unfold caretNegation
  split
  · exact Nat.le_succ _
  · exact Nat.le_refl _

/-- Reads an ASCII class such as `:alpha:]` or `:^digit:]` after its `[`, if the text is one:
its set, whether it is negated, and the text after it. -/
def asciiItem? (cs : List Char) : Option ((CharSet × Bool) × List Char) :=
  match cs with
  | ':' :: rest =>
    let (negated, rest) := caretNegation rest
    let name := rest.takeWhile (· != ':')
    match rest.drop name.length with
    | ':' :: ']' :: rest' => (asciiClass? (String.ofList name)).map fun s => ((s, negated), rest')
    | _ => none
  | _ => none

theorem asciiItem?_length {cs rest : List Char} {item : CharSet × Bool}
    (h : asciiItem? cs = some (item, rest)) : rest.length ≤ cs.length := by
  unfold asciiItem? at h
  split at h
  · rename_i after
    have hle := caretNegation_length after
    generalize caretNegation after = stripped at h hle
    obtain ⟨negated, stripped⟩ := stripped
    dsimp only at h hle
    split at h
    · rename_i rest' hdrop
      obtain ⟨s, -, hs⟩ := Option.map_eq_some_iff.mp h
      cases hs
      have hlen := congrArg List.length hdrop
      simp only [List.length_drop, List.length_cons] at hlen ⊢
      omega
    · cases h
  · cases h

/-- The set of an ASCII class item under the flags: closed under case folding, then negated if
asked; without the `u` flag a negation that reaches outside ASCII is refused. -/
def asciiItemSet (f : Flags) (s : CharSet) (negated : Bool) : Except PatternError CharSet :=
  let s := f.fold s
  f.checkAscii (if negated then CharSet.complement s else s)

/-- One item of a class that is not nested: a character or an escape. -/
def classPrimitive (f : Flags) : List Char → Except PatternError (Escape × List Char)
  | '\\' :: rest => escape f rest
  | c :: rest => .ok (.char c, rest)
  | [] => .error .unclosedClass

/-- A class item reads at least one character. -/
theorem classPrimitive_length {f : Flags} {cs rest : List Char} {e : Escape}
    (h : classPrimitive f cs = .ok (e, rest)) : rest.length < cs.length := by
  unfold classPrimitive at h
  split at h
  · exact Nat.lt_succ_of_lt (escape_length h)
  · cases h
    exact Nat.lt_succ_self _
  · cases h

/-- A result paired with a fixed rest keeps that rest. -/
theorem rest_of_map_pair {α : Type} {x : Except PatternError α} {r rest : List Char} {a : α}
    (h : x.map (fun s => (s, r)) = .ok (a, rest)) : rest = r := by
  cases x with
  | error e => cases h
  | ok s =>
    cases h
    rfl

/-- The set of a class item; assertions are refused. -/
def Escape.toSet : Escape → Except PatternError CharSet
  | .char c => .ok (CharSet.single c.toNat)
  | .set s => .ok s
  | .look _ => .error .assertionInClass

/-- Reads a class item that is a character, an escape or a range `a-z`. A `-` before `]` or
before another `-` does not start a range. -/
def classRange (f : Flags) (cs : List Char) : Except PatternError (CharSet × List Char) :=
  match classPrimitive f cs with
  | .error e => .error e
  | .ok (first, rest) =>
    match skipSpace f.verbose false rest with
    | [] => .error .unclosedClass
    | '-' :: after =>
      match skipSpace f.verbose false after with
      | ']' :: _ => first.toSet.map fun s => (s, '-' :: after)
      | '-' :: _ => first.toSet.map fun s => (s, '-' :: after)
      | [] => .error .unclosedClass
      | more =>
        match classPrimitive f more with
        | .error e => .error e
        | .ok (last, rest') =>
          match first, last with
          | .char a, .char b =>
            if a ≤ b then .ok (#[(a.toNat, b.toNat)], rest') else .error .invalidRange
          | _, _ => .error .classInRange
    | rest' => first.toSet.map fun s => (s, rest')

/-- A class item or range reads at least one character. -/
theorem classRange_length {f : Flags} {cs rest : List Char} {s : CharSet}
    (h : classRange f cs = .ok (s, rest)) : rest.length < cs.length := by
  unfold classRange at h
  split at h
  · cases h
  · rename_i first after hfirst
    have hafter := classPrimitive_length hfirst
    -- every rest handed back lies within the text after the first item
    suffices rest.length ≤ after.length by omega
    split at h
    · cases h
    · rename_i after' hs
      have hdash := length_skipSpace_le f.verbose false after
      rw [hs] at hdash
      split at h
      · rw [rest_of_map_pair h]
        exact hdash
      · rw [rest_of_map_pair h]
        exact hdash
      · cases h
      · split at h
        · cases h
        · rename_i last rest' hlast
          have hlt := classPrimitive_length hlast
          have hmore := length_skipSpace_le f.verbose false after'
          simp only [List.length_cons] at hdash
          split at h
          · split at h
            · cases h
              omega
            · cases h
          · cases h
    · rw [rest_of_map_pair h]
      exact length_skipSpace_le _ _ _

/-- Reads the leading `-` characters of a class, which stand for themselves. -/
def leadingDashes (verbose : Bool) : List Char → Nat × List Char
  | '-' :: rest =>
    let (n, r) := leadingDashes verbose (skipSpace verbose false rest)
    (n + 1, r)
  | cs => (0, cs)
termination_by cs => cs.length
decreasing_by exact length_skipSpace_lt_cons verbose '-' rest

theorem leadingDashes_length (verbose : Bool) (cs : List Char) :
    (leadingDashes verbose cs).2.length ≤ cs.length := by
  fun_induction leadingDashes verbose cs with
  | case1 rest n r hcall ih =>
    rw [hcall] at ih
    exact Nat.le_trans ih (Nat.le_of_lt (length_skipSpace_lt_cons verbose '-' rest))
  | case2 => exact Nat.le_refl _

def classNegation (verbose : Bool) (cs : List Char) : Bool × List Char :=
  match skipSpace verbose false cs with
  | '^' :: r => (true, skipSpace verbose false r)
  | r => (false, r)

theorem classNegation_length (verbose : Bool) (cs : List Char) :
    (classNegation verbose cs).2.length ≤ cs.length := by
  unfold classNegation
  split
  · rename_i r hs
    exact Nat.le_trans (length_skipSpace_le _ _ _) (Nat.le_of_lt (length_lt_of_skipSpace hs))
  · exact length_skipSpace_le _ _ _

/-- The items a bracketed class starts with: its leading `-` characters, or else a leading `]`,
which stand for themselves. -/
def leadingItems (verbose : Bool) (cs : List Char) : ClassItems × List Char :=
  match leadingDashes verbose cs with
  | (0, r) =>
    match r with
    | ']' :: r' => ({ set := CharSet.single 0x5D, count := 1 }, skipSpace verbose false r')
    | r' => ({}, r')
  | (dashes, r) => ({ set := CharSet.single 0x2D, count := dashes }, r)

theorem leadingItems_length (verbose : Bool) (cs : List Char) :
    (leadingItems verbose cs).2.length ≤ cs.length := by
  have hdashes := leadingDashes_length verbose cs
  unfold leadingItems
  split
  · rename_i r hr
    rw [hr] at hdashes
    split
    · rename_i r'
      simp only [List.length_cons] at hdashes
      exact Nat.le_trans (length_skipSpace_le _ _ _) (by omega)
    · exact hdashes
  · rename_i dashes r _ hr
    rw [hr] at hdashes
    exact hdashes

/-- Reads a set operator between the parts of a class: `&&`, `--` or `~~`. -/
def setOp? : List Char → Option (SetOp × List Char)
  | '&' :: '&' :: rest => some (.inter, rest)
  | '-' :: '-' :: rest => some (.diff, rest)
  | '~' :: '~' :: rest => some (.symmDiff, rest)
  | _ => none

theorem setOp?_length {cs rest : List Char} {op : SetOp} (h : setOp? cs = some (op, rest)) :
    rest.length < cs.length := by
  unfold setOp? at h
  split at h <;> cases h <;> simp only [List.length_cons] <;> omega

/-- A bracketed class read from the text `cs`: its set, its nesting, and the text after its
`]`, which is no longer than `cs`. -/
structure ClassRead (cs : List Char) where
  set : CharSet
  depth : Nat
  rest : List Char
  rest_le : rest.length ≤ cs.length

/-- A class read from a suffix of a text, as read from the text. -/
def ClassRead.widen {cs cs' : List Char} (h : cs'.length ≤ cs.length) (r : ClassRead cs') :
    ClassRead cs :=
  { r with rest_le := Nat.le_trans r.rest_le h }

mutual

/-- Reads a bracketed class after its `[`, up to and including the matching `]`: its set and its
nesting, one more than that of its contents. -/
def bracket (f : Flags) (cs : List Char) : Except PatternError (ClassRead cs) :=
  let negation := classNegation f.verbose cs
  let start := leadingItems f.verbose negation.2
  have _hle : start.2.length ≤ cs.length :=
    Nat.le_trans (leadingItems_length _ _) (classNegation_length _ _)
  (bracketItems f negation.1 none start.1 start.2).map (ClassRead.widen _hle)
termination_by 2 * cs.length + 1
decreasing_by exact Nat.lt_succ_of_le (Nat.mul_le_mul_left 2 _hle)

/-- Reads the items of a bracketed class up to its `]`: `union` holds the items since the last
set operator, and `pending` the operator with its left operand. -/
def bracketItems (f : Flags) (negated : Bool) (pending : PendingOp) (union : ClassItems)
    (cs : List Char) : Except PatternError (ClassRead cs) :=
  match h : skipSpace f.verbose false cs with
  | [] => .error .unclosedClass
  | ']' :: rest =>
    let s := f.fold (combine f pending union.set)
    let s := if negated then CharSet.complement s else s
    (f.checkAscii s).map fun s =>
      ⟨s, combineNesting pending union + 1, rest, Nat.le_of_lt (length_lt_of_skipSpace h)⟩
  | '[' :: rest =>
    have hrest : rest.length < cs.length := length_lt_of_skipSpace h
    match ha : asciiItem? rest with
    | some ((s, negatedItem), rest') =>
      have _hlt : rest'.length < cs.length := Nat.lt_of_le_of_lt (asciiItem?_length ha) hrest
      match asciiItemSet f s negatedItem with
      | .ok s =>
        (bracketItems f negated pending (union.add s 0) rest').map
          (ClassRead.widen (Nat.le_of_lt _hlt))
      | .error e => .error e
    | none =>
      match bracket f rest with
      | .ok inner =>
        have _hlt : inner.rest.length < cs.length := Nat.lt_of_le_of_lt inner.rest_le hrest
        (bracketItems f negated pending (union.add inner.set inner.depth) inner.rest).map
          (ClassRead.widen (Nat.le_of_lt _hlt))
      | .error e => .error e
  | cs' =>
    have hcs' : cs'.length ≤ cs.length := h ▸ length_skipSpace_le _ _ _
    match ho : setOp? cs' with
    | some (op, rest) =>
      have _hlt : rest.length < cs.length := Nat.lt_of_lt_of_le (setOp?_length ho) hcs'
      (bracketItems f negated
          (some (op, combine f pending union.set, combineNesting pending union)) {} rest).map
        (ClassRead.widen (Nat.le_of_lt _hlt))
    | none =>
      match hr : classRange f cs' with
      | .ok (s, rest) =>
        have _hlt : rest.length < cs.length := Nat.lt_of_lt_of_le (classRange_length hr) hcs'
        (bracketItems f negated pending (union.add s 0) rest).map
          (ClassRead.widen (Nat.le_of_lt _hlt))
      | .error e => .error e
termination_by 2 * cs.length

end


/-- Reads the digits of a count, skipping blanks and comments after each digit in verbose mode;
returns the digits and the text after them. -/
def countDigits (verbose : Bool) : List Char → List Char × List Char
  | c :: rest =>
    if c.isDigit then
      let (ds, after) := countDigits verbose (skipSpace verbose false rest)
      (c :: ds, after)
    else ([], c :: rest)
  | [] => ([], [])
termination_by cs => cs.length
decreasing_by exact length_skipSpace_lt_cons verbose c rest

theorem countDigits_length (verbose : Bool) (cs : List Char) :
    (countDigits verbose cs).2.length ≤ cs.length := by
  fun_induction countDigits verbose cs with
  | case1 c rest hdigit ds after hcall ih =>
    rw [hcall] at ih
    exact Nat.le_trans ih (Nat.le_of_lt (length_skipSpace_lt_cons verbose c rest))
  | case2 | case3 => exact Nat.le_refl _

/-- Skips the blanks after a count; in verbose mode each blank also skips the comments after it. -/
def countTrail (verbose : Bool) : List Char → List Char
  | c :: rest =>
    if Text.isBlank c then countTrail verbose (skipSpace verbose false rest) else c :: rest
  | [] => []
termination_by cs => cs.length
decreasing_by exact length_skipSpace_lt_cons verbose c rest

theorem countTrail_length (verbose : Bool) (cs : List Char) :
    (countTrail verbose cs).length ≤ cs.length := by
  fun_induction countTrail verbose cs with
  | case1 c rest hblank ih =>
    exact Nat.le_trans ih (Nat.le_of_lt (length_skipSpace_lt_cons verbose c rest))
  | case2 | case3 => exact Nat.le_refl _

/-- Reads a decimal count of a repetition: blanks before the digits are skipped, as are blanks
after them and, in verbose mode, blanks and comments between digits. Counts fit in 32 bits. -/
def repeatCount (verbose : Bool) (cs : List Char) : Except PatternError (Nat × List Char) :=
  let read := countDigits verbose (cs.dropWhile Text.isBlank)
  let digits := read.1
  let rest := countTrail verbose read.2
  if digits.isEmpty then .error .badRepetition
  else
    let n := digits.foldl (fun acc d => 10 * acc + (d.toNat - '0'.toNat)) 0
    if n < 4294967296 then .ok (n, rest) else .error .badRepetition

theorem repeatCount_length {verbose : Bool} {cs rest : List Char} {n : Nat}
    (h : repeatCount verbose cs = .ok (n, rest)) : rest.length ≤ cs.length := by
  have hcount : (countTrail verbose (countDigits verbose (cs.dropWhile Text.isBlank)).2).length ≤
      cs.length :=
    calc _ ≤ (countDigits verbose (cs.dropWhile Text.isBlank)).2.length := countTrail_length _ _
      _ ≤ (cs.dropWhile Text.isBlank).length := countDigits_length _ _
      _ ≤ cs.length := (List.dropWhile_suffix _).length_le
  unfold repeatCount at h
  dsimp only at h
  split at h
  · cases h
  · split at h
    · cases h
      exact hcount
    · cases h

/-- Reads the bounds of a counted repetition after its `{`, up to and including the `}`. -/
def repeatBounds (verbose : Bool) (cs : List Char) : Except PatternError ((Nat × Option Nat) × List Char) :=
  match skipSpace verbose false cs with
  | [] => .error .badRepetition
  | cs =>
    match repeatCount verbose cs with
    | .error e => .error e
    | .ok (low, rest) =>
      match rest with
      | ',' :: after =>
        match skipSpace verbose false after with
        | [] => .error .badRepetition
        | '}' :: rest' => .ok ((low, none), rest')
        | more =>
          match repeatCount verbose more with
          | .ok (high, '}' :: rest') =>
            if low ≤ high then .ok ((low, some high), rest') else .error .badRepetition
          | .ok _ => .error .badRepetition
          | .error e => .error e
      | '}' :: rest' => .ok ((low, some low), rest')
      | _ => .error .badRepetition

theorem repeatBounds_length {verbose : Bool} {cs rest : List Char} {bounds : Nat × Option Nat}
    (h : repeatBounds verbose cs = .ok (bounds, rest)) : rest.length ≤ cs.length := by
  unfold repeatBounds at h
  split at h
  · cases h
  · split at h
    · cases h
    · rename_i low after hlow
      have hfirst : after.length ≤ cs.length :=
        Nat.le_trans (repeatCount_length hlow) (length_skipSpace_le verbose false cs)
      -- whatever follows the first count, the rest handed back lies within it
      suffices rest.length ≤ after.length by omega
      split at h
      · rename_i after'
        split at h
        · cases h
        · rename_i rest' hs
          cases h
          have hlt := length_lt_of_skipSpace hs
          simp only [List.length_cons]
          omega
        · split at h
          · rename_i high rest' hhigh
            split at h
            · cases h
              have hle := repeatCount_length hhigh
              have hskip := length_skipSpace_le verbose false after'
              simp only [List.length_cons] at hle ⊢
              omega
            · cases h
          · cases h
          · cases h
      · cases h
        simp only [List.length_cons]
        omega
      · cases h

/-- An element of a sequence being read: a pattern with its nesting, or the mark of a flag
group, which cannot be repeated.

The nesting of a pattern counts the groups, bracketed classes (and the unions and set operators
inside them), repetitions, alternations and sequences of two or more elements that enclose its
deepest part. -/
inductive Piece where
  | item (p : Regex) (depth : Nat)
  | flagChange

def Piece.pattern? : Piece → Option Regex
  | .item p _ => some p
  | .flagChange => none

/-- The nesting of a piece; a flag mark has none. -/
def Piece.depth : Piece → Nat
  | .item _ d => d
  | .flagChange => 0

/-- The nesting of a sequence of pieces: one piece is as deep as it is; two or more form a
sequence one level deeper. Flag marks count as pieces. -/
def sequenceDepth : List Piece → Nat
  | [] => 0
  | [p] => p.depth
  | ps => (ps.map Piece.depth).foldl max 0 + 1

/-- A group being read: its flags, whether it captures, its finished alternatives (latest
first) with their nesting, and the pieces of its current alternative (latest first). -/
structure Frame where
  flags : Flags
  capturing : Bool := false
  branches : List (Regex × Nat) := []
  pieces : List Piece := []

namespace Frame

def add (fr : Frame) (p : Regex) (depth : Nat) : Frame :=
  { fr with pieces := .item p depth :: fr.pieces }

def current (fr : Frame) : Regex × Nat :=
  (Regex.seqAll (fr.pieces.reverse.filterMap Piece.pattern?), sequenceDepth fr.pieces)

/-- The contents of the group as one pattern, its alternatives in the order written, with its
nesting: two or more alternatives form an alternation one level deeper. -/
def close (fr : Frame) : Regex × Nat :=
  let all := (fr.current :: fr.branches).reverse
  let depth := match all with
    | [b] => b.2
    | bs => (bs.map (·.2)).foldl max 0 + 1
  (Regex.altAll (all.map (·.1)), depth)

def newBranch (fr : Frame) : Frame :=
  { fr with branches := fr.current :: fr.branches, pieces := [] }

/-- Changes the flags for the rest of the group, leaving a mark that cannot be repeated. -/
def setFlags (fr : Frame) (g : Flags) : Frame :=
  { fr with flags := g, pieces := .flagChange :: fr.pieces }

/-- Repeats the last piece, one level deeper; a repetition needs a pattern before it. The `U`
flag swaps greed. -/
def repeatLast (fr : Frame) (min : Nat) (max : Option Nat) (greedy : Bool) :
    Except PatternError Frame :=
  match fr.pieces with
  | .item p d :: ps =>
    .ok { fr with
      pieces := .item (.many p min max (greedy != fr.flags.swapGreed)) (d + 1) :: ps }
  | _ => .error .missingRepetition

end Frame

inductive Opening where
  /-- A flag group `(?flags)`, which changes the flags of the enclosing group. -/
  | setFlags (f : Flags)
  /-- A group with its flags, whether it captures, and the capture names known after it. -/
  | group (f : Flags) (capturing : Bool) (names : List String)

/-- Whether a character may appear in a group name: the first must be `_` or alphabetic; the
others may also be numeric, `.`, `[` or `]`. -/
def isNameChar (first : Bool) (c : Char) : Bool :=
  if first then c == '_' || Text.isAlphabetic c
  else c == '_' || c == '.' || c == '[' || c == ']' || Text.isAlphanumeric c

def groupName (cs : List Char) : Except PatternError (String × List Char) :=
  let name := cs.takeWhile (· != '>')
  match cs.drop name.length with
  | '>' :: rest =>
    match name with
    | [] => .error .badGroupName
    | c :: more =>
      if isNameChar true c && more.all (isNameChar false) then .ok (String.ofList name, rest)
      else .error .badGroupName
  | _ => .error .badGroupName

theorem groupName_length {cs rest : List Char} {name : String}
    (h : groupName cs = .ok (name, rest)) : rest.length ≤ cs.length := by
  unfold groupName at h
  dsimp only at h
  split at h
  · rename_i rest' hdrop
    split at h
    · cases h
    · split at h
      · cases h
        have hlen := congrArg List.length hdrop
        simp only [List.length_drop, List.length_cons] at hlen
        omega
      · cases h
  · cases h

/-- Reads flag letters up to `:` or `)`, with at most one `-`; each flag at most once. Returns
the letters with their new values and the character that ended them. -/
def flagItems : List Char → List (Char × Bool) → Bool → Bool →
    Except PatternError (List (Char × Bool) × Char × List Char)
  | [], _, _, _ => .error .badFlags
  | c :: rest, acc, negated, afterDash =>
    if c == ':' || c == ')' then
      if afterDash then .error .badFlags
      else if c == ')' && acc.isEmpty && !negated then .error .missingRepetition
      else .ok (acc.reverse, c, rest)
    else if c == '-' then
      if negated then .error .badFlags else flagItems rest acc true true
    else if isFlagLetter c then
      if acc.any (·.1 == c) then .error .badFlags
      else flagItems rest ((c, !negated) :: acc) negated false
    else .error .badFlags

theorem flagItems_length {cs rest : List Char} {acc items : List (Char × Bool)}
    {negated afterDash : Bool} {stop : Char} :
    flagItems cs acc negated afterDash = .ok (items, stop, rest) → rest.length < cs.length := by
  fun_induction flagItems cs acc negated afterDash with
  | case4 c more acc negated afterDash hstop hdash hmissing =>
    rintro ⟨⟩
    exact Nat.lt_succ_self _
  | case6 c more acc negated afterDash hstop hdash hnegated ih =>
    intro h
    exact Nat.lt_succ_of_lt (ih h)
  | case8 c more acc negated afterDash hstop hdash hletter hrepeated ih =>
    intro h
    exact Nat.lt_succ_of_lt (ih h)
  | case1 | case2 | case3 | case5 | case7 | case9 => rintro ⟨⟩

/-- Reads the name of a capturing group after its `<` and adds it to the names known; each name
is given once. -/
def namedGroup (f : Flags) (names : List String) (cs : List Char) :
    Except PatternError (Opening × List Char) :=
  match groupName cs with
  | .ok (name, rest) =>
    if names.contains name then .error .badGroupName
    else .ok (.group f true (name :: names), rest)
  | .error e => .error e

theorem namedGroup_length {f : Flags} {names : List String} {cs rest : List Char} {o : Opening}
    (h : namedGroup f names cs = .ok (o, rest)) : rest.length ≤ cs.length := by
  unfold namedGroup at h
  split at h
  · rename_i name rest' hname
    split at h
    · cases h
    · cases h
      exact groupName_length hname
  · cases h

/-- Reads the flags of a group after its `?`: a flag group `(?flags)` sets them for the rest of
the enclosing group, and `(?flags:` opens a group that does not capture. -/
def flagGroup (f : Flags) (names : List String) (cs : List Char) :
    Except PatternError (Opening × List Char) :=
  match flagItems cs [] false false with
  | .ok (items, stop, rest) =>
    let g := items.foldl (fun g (c, on) => g.set c on) f
    if stop == ')' then .ok (.setFlags g, rest) else .ok (.group g false names, rest)
  | .error e => .error e

theorem flagGroup_length {f : Flags} {names : List String} {cs rest : List Char} {o : Opening}
    (h : flagGroup f names cs = .ok (o, rest)) : rest.length ≤ cs.length := by
  unfold flagGroup at h
  split at h
  · rename_i items stop rest' hitems
    have hlt := flagItems_length hitems
    dsimp only at h
    split at h
    · cases h
      exact Nat.le_of_lt hlt
    · cases h
      exact Nat.le_of_lt hlt
  · cases h

def openGroup (f : Flags) (names : List String) (cs : List Char) :
    Except PatternError (Opening × List Char) :=
  match cs with
  | '?' :: '=' :: _ | '?' :: '!' :: _ | '?' :: '<' :: '=' :: _ | '?' :: '<' :: '!' :: _ =>
    .error .lookAround
  | '?' :: 'P' :: '<' :: rest | '?' :: '<' :: rest => namedGroup f names rest
  | ['?'] => .error .unclosedGroup
  | '?' :: rest => flagGroup f names rest
  | _ => .ok (.group f true names, cs)

theorem openGroup_length {f : Flags} {names : List String} {cs rest : List Char} {o : Opening}
    (h : openGroup f names cs = .ok (o, rest)) : rest.length ≤ cs.length := by
  unfold openGroup at h
  split at h
  -- look-around is refused
  · cases h
  · cases h
  · cases h
  · cases h
  -- a named group
  · have hle := namedGroup_length h
    simp only [List.length_cons]
    omega
  · have hle := namedGroup_length h
    simp only [List.length_cons]
    omega
  -- a lone `?`, flags, or a plain group
  · cases h
  · exact Nat.le_trans (flagGroup_length h) (Nat.le_succ _)
  · cases h
    exact Nat.le_refl _

/-- The pattern of a literal character under the flags: the character, joined by its other
cases when the `i` flag is on. -/
def literal (f : Flags) (c : Char) : Regex :=
  .chars (f.fold (CharSet.single c.toNat))

/-- The pattern of `.` under the flags: any character but a line feed (and, with `R`, a
carriage return), or any character at all with `s`. Without `u` it is refused. -/
def dot (f : Flags) : Except PatternError Regex :=
  if !f.unicode then .error .outsideAscii
  else if f.dotAll then .ok (.chars CharSet.any)
  else if f.crlf then .ok (.chars #[(0, 9), (11, 12), (14, CharSet.maxCode)])
  else .ok (.chars #[(0, 9), (11, CharSet.maxCode)])

def Escape.toRegex (f : Flags) : Escape → Regex
  | .char c => literal f c
  | .set s => .chars s
  | .look l => .look l

/-- Reads a repetition's laziness mark `?` right after its operator. -/
def lazyMark : List Char → Bool × List Char
  | '?' :: rest => (false, rest)
  | rest => (true, rest)

theorem lazyMark_length (cs : List Char) : (lazyMark cs).2.length ≤ cs.length := by
  unfold lazyMark
  split
  · exact Nat.le_succ _
  · exact Nat.le_refl _

/-- The state of the reader between two steps: the enclosing groups, innermost first, the group
being read, and the capture names so far. -/
structure ReadState where
  outer : List Frame
  cur : Frame
  names : List String

/-- What one step of the reader gives: the whole pattern with its nesting, or the next state
with the text left. -/
inductive Step where
  | done (p : Regex) (depth : Nat)
  | next (st : ReadState) (rest : List Char)

namespace ReadState

def push (st : ReadState) (p : Regex) (depth : Nat) (rest : List Char) : Step :=
  .next { st with cur := st.cur.add p depth } rest

/-- Repeats the last piece and goes on, reading a laziness mark after the operator. -/
def repeatLast (st : ReadState) (low : Nat) (high : Option Nat) (rest : List Char) :
    Except PatternError Step :=
  let (greedy, rest') := lazyMark rest
  (st.cur.repeatLast low high greedy).map fun cur => .next { st with cur } rest'

theorem repeatLast_length {st st' : ReadState} {low : Nat} {high : Option Nat}
    {rest r : List Char} (h : st.repeatLast low high rest = .ok (.next st' r)) :
    r.length ≤ rest.length := by
  unfold repeatLast at h
  have hmark := lazyMark_length rest
  generalize lazyMark rest = mark at h hmark
  obtain ⟨greedy, rest'⟩ := mark
  dsimp only at h hmark
  cases hcur : st.cur.repeatLast low high greedy with
  | error e =>
    rw [hcur] at h
    cases h
  | ok cur =>
    rw [hcur] at h
    cases h
    exact hmark

end ReadState

/-- One step of the reader: reads one item, operator, or group boundary. -/
def readStep (st : ReadState) (cs : List Char) : Except PatternError Step :=
  let f := st.cur.flags
  match skipSpace f.verbose false cs with
  | [] =>
    if st.outer.isEmpty then .ok (.done st.cur.close.1 st.cur.close.2) else .error .unclosedGroup
  | c :: rest =>
    if c == '|' then
      .ok (.next { st with cur := st.cur.newBranch } rest)
    else if c == ')' then
      match st.outer with
      | [] => .error .unopenedGroup
      | o :: os =>
        let (body, depth) := st.cur.close
        .ok (.next { st with outer := os, cur := o.add (.group st.cur.capturing body) (depth + 1) }
          rest)
    else if c == '(' then
      (openGroup f st.names (skipSpace f.verbose false rest)).map fun
        | (.setFlags g, rest') => .next { st with cur := st.cur.setFlags g } rest'
        | (.group g capturing names', rest') =>
          .next { outer := st.cur :: st.outer, cur := { flags := g, capturing }, names := names' }
            rest'
    else if c == '*' then st.repeatLast 0 none rest
    else if c == '+' then st.repeatLast 1 none rest
    else if c == '?' then st.repeatLast 0 (some 1) rest
    else if c == '{' then
      match repeatBounds f.verbose rest with
      | .ok ((low, high), rest') => st.repeatLast low high (skipSpace f.verbose false rest')
      | .error e =>
        match st.cur.pieces with
        | .item _ _ :: _ => .error e
        | _ => .error .missingRepetition
    else if c == '[' then
      (bracket f rest).map fun r => st.push (.chars r.set) r.depth r.rest
    else if c == '.' then
      (dot f).map fun p => st.push p 0 rest
    else if c == '^' then
      .ok (st.push (.look (if f.multiLine then .lineStart f.crlf else .textStart)) 0 rest)
    else if c == '$' then
      .ok (st.push (.look (if f.multiLine then .lineEnd f.crlf else .textEnd)) 0 rest)
    else if c == '\\' then
      (escape f rest).map fun (e, rest') => st.push (e.toRegex f) 0 rest'
    else .ok (st.push (literal f c) 0 rest)

/-- Each step of the reader that goes on reads at least one character. -/
theorem readStep_length {st st' : ReadState} {cs rest : List Char}
    (h : readStep st cs = .ok (.next st' rest)) : rest.length < cs.length := by
  unfold readStep at h
  dsimp only at h
  split at h
  · split at h <;> cases h
  · rename_i c more hs
    -- the step reads `c`, and then no more than the text after it
    suffices hle : rest.length ≤ more.length by
      exact Nat.lt_of_le_of_lt hle (length_lt_of_skipSpace hs)
    -- one case per kind of item, in the order the step tries them
    by_cases hbar : (c == '|') = true
    · rw [if_pos hbar] at h
      cases h
      exact Nat.le_refl _
    rw [if_neg hbar] at h
    by_cases hclose : (c == ')') = true
    · rw [if_pos hclose] at h
      split at h
      · cases h
      · cases h
        exact Nat.le_refl _
    rw [if_neg hclose] at h
    by_cases hopen : (c == '(') = true
    · rw [if_pos hopen] at h
      cases hgroup : openGroup st.cur.flags st.names (skipSpace st.cur.flags.verbose false more) with
      | error e =>
        rw [hgroup] at h
        cases h
      | ok opened =>
        rw [hgroup] at h
        obtain ⟨o, r⟩ := opened
        have hle := Nat.le_trans (openGroup_length hgroup) (length_skipSpace_le _ _ _)
        cases o <;> cases h <;> exact hle
    rw [if_neg hopen] at h
    by_cases hstar : (c == '*') = true
    · rw [if_pos hstar] at h
      exact ReadState.repeatLast_length h
    rw [if_neg hstar] at h
    by_cases hplus : (c == '+') = true
    · rw [if_pos hplus] at h
      exact ReadState.repeatLast_length h
    rw [if_neg hplus] at h
    by_cases hquestion : (c == '?') = true
    · rw [if_pos hquestion] at h
      exact ReadState.repeatLast_length h
    rw [if_neg hquestion] at h
    by_cases hbrace : (c == '{') = true
    · rw [if_pos hbrace] at h
      split at h
      · rename_i low high r hbounds
        exact Nat.le_trans (ReadState.repeatLast_length h)
          (Nat.le_trans (length_skipSpace_le _ _ _) (repeatBounds_length hbounds))
      · split at h <;> cases h
    rw [if_neg hbrace] at h
    by_cases hbracket : (c == '[') = true
    · rw [if_pos hbracket] at h
      cases hclass : bracket st.cur.flags more with
      | error e =>
        rw [hclass] at h
        cases h
      | ok r =>
        rw [hclass] at h
        cases h
        exact r.rest_le
    rw [if_neg hbracket] at h
    by_cases hdot : (c == '.') = true
    · rw [if_pos hdot] at h
      cases hany : dot st.cur.flags with
      | error e =>
        rw [hany] at h
        cases h
      | ok p =>
        rw [hany] at h
        cases h
        exact Nat.le_refl _
    rw [if_neg hdot] at h
    by_cases hcaret : (c == '^') = true
    · rw [if_pos hcaret] at h
      cases h
      exact Nat.le_refl _
    rw [if_neg hcaret] at h
    by_cases hdollar : (c == '$') = true
    · rw [if_pos hdollar] at h
      cases h
      exact Nat.le_refl _
    rw [if_neg hdollar] at h
    by_cases hbackslash : (c == '\\') = true
    · rw [if_pos hbackslash] at h
      cases hesc : escape st.cur.flags more with
      | error e =>
        rw [hesc] at h
        cases h
      | ok read =>
        rw [hesc] at h
        obtain ⟨e, r⟩ := read
        cases h
        exact Nat.le_of_lt (escape_length hesc)
    rw [if_neg hbackslash] at h
    cases h
    exact Nat.le_refl _

/-- Runs the reader step by step until the whole text is read. -/
def readLoop (st : ReadState) (cs : List Char) : Except PatternError (Regex × Nat) :=
  match h : readStep st cs with
  | .ok (.done p d) => .ok (p, d)
  | .ok (.next st' rest) =>
    have _hlt : rest.length < cs.length := readStep_length h
    readLoop st' rest
  | .error e => .error e
termination_by cs.length
decreasing_by exact _hlt

def readNested (text : String) : Except PatternError (Regex × Nat) :=
  readLoop ⟨[], { flags := {} }, []⟩ text.toList

def nestLimit : Nat := 250

/-- Reads a whole pattern text; one nested deeper than `nestLimit` is refused. -/
def read (text : String) : Except PatternError Regex :=
  match readNested text with
  | .ok (p, d) => if d ≤ nestLimit then .ok p else .error .nestingTooDeep
  | .error e => .error e

/-- The text of a pattern anchored at the start of the text it is matched against: the group
`^(?:text)`. A stray `)` in the text therefore closes that group early. -/
def anchoredText (text : String) : String :=
  "^(?:" ++ text ++ ")"

end ScimFilter.Pattern
