import ScimFilter.Lexer.ScanFacts
import ScimFilter.Proofs.Productions
/-!
Scanning as a relation on lexemes. `Reads rules cs xs rest` says that the scan of `cs` takes
the lexemes `xs` and stops with `rest` left, every match made on the remaining text with `rest`
still behind it. Readings compose by `Reads.append` and come apart by `Reads.split`; a scan
succeeds with tokens whose lexemes are `xs` exactly when the text reads as `xs` with nothing
left (`scanFrom_eq_ok_iff`).
-/

namespace ScimFilter.Lexer

open Grammar (lexemes except_map_eq_ok)

def joinedLexemes (xs : List Lexeme) : List Char := (xs.map fun x => x.2.toList).flatten

/-- The scan of `cs` takes the lexemes `xs` and leaves `rest`; every match is made on the
remaining text with `rest` still behind it. -/
inductive Reads (rules : List (Rule TokenKind)) : List Char → List Lexeme → List Char → Prop
  | done (rest : List Char) : Reads rules rest [] rest
  | step {cs rest : List Char} {xs : List Lexeme} {k : TokenKind} {n : Nat} :
      firstMatch rules cs = some (k, n) → Reads rules (cs.drop n) xs rest →
      Reads rules cs ((k, String.ofList (cs.take n)) :: xs) rest

variable {rules : List (Rule TokenKind)}

theorem firstMatch_nil (rules : List (Rule TokenKind)) : firstMatch rules [] = none := by
  cases h : firstMatch rules [] with
  | none => rfl
  | some m =>
    have := firstMatch_bounds rules [] h
    simp at this
    omega

theorem scanFrom_nil (o p : Nat) : scanFrom rules [] o p = .ok [] := by
  rw [scanFrom]
  rfl

theorem scanFrom_of_firstMatch {cs : List Char} {k : TokenKind} {n : Nat} (o p : Nat)
    (h : firstMatch rules cs = some (k, n)) :
    scanFrom rules cs o p = (scanFrom rules (cs.drop n)
      (o + (String.ofList (cs.take n)).utf8ByteSize) (p + 1)).map
        (⟨k, String.ofList (cs.take n), o, p⟩ :: ·) := by
  have hne : cs ≠ [] := by
    rintro rfl
    rw [firstMatch_nil] at h
    cases h
  rw [scanFrom]
  simp only [List.isEmpty_iff, hne, if_false]
  split
  · rename_i h'
    rw [h] at h'
    cases h'
  · rename_i k' n' h'
    rw [h] at h'
    cases h'
    rfl

theorem reads_of_scanFrom {cs : List Char} {o p : Nat} {ts : List (Token TokenKind)}
    (h : scanFrom rules cs o p = .ok ts) : Reads rules cs (lexemes ts) [] := by
  fun_induction scanFrom rules cs o p generalizing ts with
  | case1 cs o p hempty =>
    cases h
    rw [List.isEmpty_iff.mp hempty]
    exact .done []
  | case2 cs o p hempty hm => cases h
  | case3 cs o p hempty k n hm text =>
    rename_i ih
    obtain ⟨ts', h', rfl⟩ := except_map_eq_ok.mp h
    exact .step hm (ih h')

theorem scanFrom_of_reads {cs rest : List Char} {xs : List Lexeme} (h : Reads rules cs xs rest)
    (hrest : rest = []) (o p : Nat) : ∃ ts, scanFrom rules cs o p = .ok ts ∧ lexemes ts = xs := by
  induction h generalizing o p with
  | done rest =>
    subst hrest
    exact ⟨[], scanFrom_nil o p, rfl⟩
  | step hm _ ih =>
    obtain ⟨ts, hts, rfl⟩ := ih hrest _ _
    exact ⟨_, by rw [scanFrom_of_firstMatch o p hm, hts]; rfl, rfl⟩

/-- A scan succeeds with tokens whose lexemes are `xs` exactly when the text reads as `xs`
with nothing left. -/
theorem scanFrom_eq_ok_iff {cs : List Char} {xs : List Lexeme} (o p : Nat) :
    (∃ ts, scanFrom rules cs o p = .ok ts ∧ lexemes ts = xs) ↔ Reads rules cs xs [] := by
  constructor
  · rintro ⟨ts, h, rfl⟩
    exact reads_of_scanFrom h
  · intro h
    exact scanFrom_of_reads h rfl o p

namespace Reads

theorem text_eq {cs rest : List Char} {xs : List Lexeme} (h : Reads rules cs xs rest) :
    cs = joinedLexemes xs ++ rest := by
  induction h with
  | done => rfl
  | @step cs rest xs k n hm _ ih =>
    have hb := firstMatch_bounds rules cs hm
    simp only [joinedLexemes, List.map_cons, List.flatten_cons, String.toList_ofList,
      List.append_assoc] at ih ⊢
    rw [← ih, List.take_append_drop]

theorem append {cs mid rest : List Char} {xs ys : List Lexeme} (h1 : Reads rules cs xs mid)
    (h2 : Reads rules mid ys rest) : Reads rules cs (xs ++ ys) rest := by
  induction h1 with
  | done => exact h2
  | step hm _ ih => exact .step hm (ih h2)

/-- A reading of `xs ++ ys` is a reading of `xs` that leaves the text of `ys` and the rest,
followed by a reading of `ys`. -/
theorem split {cs rest : List Char} {xs ys : List Lexeme} (h : Reads rules cs (xs ++ ys) rest) :
    Reads rules cs xs (joinedLexemes ys ++ rest) ∧ Reads rules (joinedLexemes ys ++ rest) ys rest := by
  induction xs generalizing cs with
  | nil =>
    have := h.text_eq
    subst this
    exact ⟨.done _, h⟩
  | cons x xs ih =>
    cases h with
    | step hm h' =>
      obtain ⟨h1, h2⟩ := ih h'
      exact ⟨.step hm h1, h2⟩

/-- A text that the first matching rule takes whole is read as one lexeme. -/
theorem whole {k : TokenKind} {w : String}
    (hm : firstMatch rules w.toList = some (k, w.toList.length)) : Reads rules w.toList [(k, w)] [] := by
  have hdone : Reads rules (w.toList.drop w.toList.length) [] [] := by
    rw [List.drop_length]
    exact .done []
  simpa using Reads.step hm hdone

end Reads


theorem Rule.takes_append_iff {κ : Type} {r : Rule κ} {cs ys : List Char}
    (heq : r.take (cs ++ ys) = r.take cs) (hle : ∀ m, r.take cs = some m → m ≤ cs.length)
    (m : Nat) : r.Takes (cs ++ ys) m ↔ r.Takes cs m := by
  simp only [Rule.Takes, heq]
  constructor
  · rintro ⟨h1, h2, -⟩
    exact ⟨h1, h2, hle m h1⟩
  · rintro ⟨h1, h2, h3⟩
    refine ⟨h1, h2, ?_⟩
    simp only [List.length_append]
    omega

/-- Rules that take the same from two texts make the same first match on them. -/
theorem firstMatch_congr {κ : Type} {rules : List (Rule κ)} {cs cs' : List Char}
    (h : ∀ r ∈ rules, ∀ m, r.Takes cs' m ↔ r.Takes cs m) :
    firstMatch rules cs' = firstMatch rules cs := by
  apply Option.ext
  rintro ⟨k, n⟩
  rw [firstMatch_eq_some_iff, firstMatch_eq_some_iff]
  constructor
  · rintro ⟨pre, r, post, rfl, hpre, hk, ht⟩
    refine ⟨pre, r, post, rfl, fun r' hr' m hm => hpre r' hr' m ?_, hk, ?_⟩
    · exact (h r' (by simp [hr']) m).mpr hm
    · exact (h r (by simp) n).mp ht
  · rintro ⟨pre, r, post, rfl, hpre, hk, ht⟩
    refine ⟨pre, r, post, rfl, fun r' hr' m hm => hpre r' hr' m ?_, hk, ?_⟩
    · exact (h r' (by simp [hr']) m).mp hm
    · exact (h r (by simp) n).mpr ht

end ScimFilter.Lexer
