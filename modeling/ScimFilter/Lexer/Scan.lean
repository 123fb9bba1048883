import ScimFilter.Token
/-!
First-match scanning. A lexer is an ordered list of rules; each rule says how many characters
at the start of the remaining text it takes. At every offset the first rule that takes a
non-empty piece wins, even when a later rule would take more. Where no rule takes anything the
scan stops with an unknown-token error that quotes the start of the remaining text.

Main statement: a matched piece is non-empty and no longer than the text (`firstMatch_bounds`),
so the scan terminates. What a scan returns is characterised in `Lexer.ScanFacts`.
-/

namespace ScimFilter.Lexer

/-- A rule of a lexer: a token kind and how many characters at the start of a text it takes. -/
structure Rule (κ : Type) where
  kind : κ
  take : List Char → Option Nat

/-- No rule matched at `offset`; `preview` is the start of the remaining text. -/
structure UnknownToken where
  offset : Nat
  preview : String
  deriving DecidableEq, Repr

/-- The number of characters of remaining text that an unknown-token error quotes. -/
def previewLength : Nat := 16

/-- The first rule that takes a non-empty piece of the text, with the piece's length. -/
def firstMatch {κ : Type} : List (Rule κ) → List Char → Option (κ × Nat)
  | [], _ => none
  | r :: rs, cs =>
    match r.take cs with
    | some n => if 0 < n ∧ n ≤ cs.length then some (r.kind, n) else firstMatch rs cs
    | none => firstMatch rs cs

theorem firstMatch_bounds {κ : Type} {k : κ} {n : Nat} :
    ∀ (rules : List (Rule κ)) (cs : List Char), firstMatch rules cs = some (k, n) →
      0 < n ∧ n ≤ cs.length
  | [], _, h => by simp [firstMatch] at h
  | r :: rs, cs, h => by
    simp only [firstMatch] at h
    split at h
    · split at h
      · simp only [Option.some.injEq, Prod.mk.injEq] at h
        obtain ⟨-, rfl⟩ := h
        assumption
      · exact firstMatch_bounds rs cs h
    · exact firstMatch_bounds rs cs h

theorem length_drop_lt_of_firstMatch {κ : Type} {rules : List (Rule κ)} {cs : List Char}
    {k : κ} {n : Nat} (h : firstMatch rules cs = some (k, n)) : (cs.drop n).length < cs.length := by
  have := firstMatch_bounds rules cs h
  simp only [List.length_drop]
  omega

/-- Scans the text `cs`, which starts at byte `offset` of the input, numbering the tokens
from `position`. -/
def scanFrom {κ : Type} (rules : List (Rule κ)) (cs : List Char) (offset position : Nat) :
    Except UnknownToken (List (Token κ)) :=
  if cs.isEmpty then .ok [] else
  match h : firstMatch rules cs with
  | none => .error ⟨offset, String.ofList (cs.take previewLength)⟩
  | some (kind, n) =>
    let text := String.ofList (cs.take n)
    (scanFrom rules (cs.drop n) (offset + text.utf8ByteSize) (position + 1)).map
      (⟨kind, text, offset, position⟩ :: ·)
termination_by cs.length
decreasing_by exact length_drop_lt_of_firstMatch h

/-- Splits an input into tokens by the rules, or names the first offset no rule matches. -/
def scan {κ : Type} (rules : List (Rule κ)) (input : String) :
    Except UnknownToken (List (Token κ)) :=
  scanFrom rules input.toList 0 0

end ScimFilter.Lexer
