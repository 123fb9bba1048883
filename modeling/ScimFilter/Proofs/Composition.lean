import ScimFilter.Proofs.Boundaries
import Mathlib
/-!
Readings of texts put together. `ReadAlone v xs` says that the scan of the texts of the lexemes
`xs` reads them back; the lexemes of a part of such a list are read alone too, when a token that
starts with a stopper follows the part (`ReadAlone.left`). `ReadsBefore v cs xs` says that the
text `cs` is read as `xs` in front of any text that starts with a stopper, which is left as it
is; such texts are put together by `ReadsBefore.append` across a stopper, by a single blank
(`ReadsBefore.blank`) and between brackets (`ReadsBefore.enclosed`).
-/

namespace ScimFilter.Lexer

open Grammar (lexemes)

variable {v : Version}

/-! ### Stoppers -/

instance : DecidablePred Stopper := fun _ => inferInstanceAs (Decidable (_ ∧ _ ∧ _))

theorem stopper_space : Stopper ' ' := by decide

/-- A blank stops names and numbers. -/
theorem Stopper.of_isBlank {d : Char} (h : Text.isBlank d = true) : Stopper d := by
  refine ⟨?_, ?_, ?_⟩
  · simp only [Text.isBlank, Bool.or_eq_true, Bool.and_eq_true, decide_eq_true_eq, beq_iff_eq] at h
    simp only [isNameChar, Char.isAlphanum, Char.isAlpha, Char.isUpper, Char.isLower, Char.isDigit,
      Bool.or_eq_false_iff, Bool.and_eq_false_iff, decide_eq_false_iff_not, beq_eq_false_iff_ne,
      ne_eq, UInt32.le_iff_toNat_le, Char.ext_iff, ← UInt32.toNat_inj]
    have hA : ('A' : Char).val.toNat = 65 := rfl
    have hZ : ('Z' : Char).val.toNat = 90 := rfl
    have ha : ('a' : Char).val.toNat = 97 := rfl
    have hz : ('z' : Char).val.toNat = 122 := rfl
    have h0 : ('0' : Char).val.toNat = 48 := rfl
    have h9 : ('9' : Char).val.toNat = 57 := rfl
    have hminus : ('-' : Char).val.toNat = 45 := rfl
    have hunder : ('_' : Char).val.toNat = 95 := rfl
    have hd : d.toNat = d.val.toNat := rfl
    omega
  · rintro rfl
    exact absurd h (by decide)
  · rintro rfl
    exact absurd h (by decide)

/-- The token kinds whose texts start with a stopper: whitespace, parentheses and brackets. -/
def stopKinds : List TokenKind := [.whitespace, .openParen, .closeParen, .openBracket, .closeBracket]

/-- A token of a kind in `stopKinds` starts with a stopper. -/
theorem firstMatch_stopper {cs : List Char} {k : TokenKind} {n : Nat}
    (h : firstMatch (scimRules v) cs = some (k, n)) (hk : k ∈ stopKinds) :
    ∃ d t, cs = d :: t ∧ Stopper d := by
  obtain ⟨pre, r, post, hrules, -, rfl, ht, hpos, hle⟩ :=
    (firstMatch_eq_some_iff (scimRules v) cs k n).mp h
  have hr : r ∈ scimRules v := by simp [hrules]
  obtain ⟨d, t, rfl⟩ : ∃ d t, cs = d :: t := List.exists_cons_of_ne_nil (by
    rintro rfl
    simp at hle
    omega)
  refine ⟨d, t, rfl, ?_⟩
  rcases mem_scimRules hr with rfl | rfl | rfl | rfl | rfl | rfl | rfl | rfl | rfl | rfl | rfl
  case inl =>
    -- the run of blanks is not empty, so it starts with a blank
    simp only [whitespaceRule, Option.some.injEq] at ht
    subst ht
    cases hd : Text.isBlank d
    · simp [runLength, hd] at hpos
    · exact Stopper.of_isBlank hd
  all_goals first
    | (simp [stopKinds, numberRule, stringRule, nameRule, single] at hk; done)
    | (simp only [single] at ht
       split at ht
       · simp only [List.head?_cons, Option.some.injEq] at *
         subst_vars
         exact ⟨by decide, by decide, by decide⟩
       · cases ht)

/-! ### Strings -/

/-- A string literal ends in its closing quote. -/
theorem stringTailLength_take {cs : List Char} {n : Nat} (h : stringTailLength cs = some n) :
    ∃ body, cs.take n = body ++ ['"'] := by
  induction cs using stringTailLength.induct generalizing n with
  | case1 => cases h
  | case2 rest =>
    cases h
    exact ⟨[], rfl⟩
  | case3 => simp [stringTailLength] at h
  | case4 c rest hc ih =>
    simp only [stringTailLength, hc, if_false] at h
    obtain ⟨m, hm, rfl⟩ := Option.map_eq_some_iff.mp h
    obtain ⟨body, hbody⟩ := ih hm
    exact ⟨'\\' :: c :: body, by simp [hbody]⟩
  | case5 => cases h
  | case6 c rest h1 h2 h3 ih =>
    have hc := ne_backslash_of_unescaped h2 h3
    rw [stringTailLength_other rest h1 hc] at h
    obtain ⟨m, hm, rfl⟩ := Option.map_eq_some_iff.mp h
    obtain ⟨body, hbody⟩ := ih hm
    exact ⟨c :: body, by simp [hbody]⟩

/-- Only the string rule makes string tokens. -/
theorem firstMatch_string {cs : List Char} {n : Nat}
    (h : firstMatch (scimRules v) cs = some (.string, n)) : stringLength cs = some n := by
  obtain ⟨pre, r, post, hrules, -, hk, ht, -⟩ :=
    (firstMatch_eq_some_iff (scimRules v) cs .string n).mp h
  have hr : r ∈ scimRules v := by simp [hrules]
  rcases mem_scimRules hr with rfl | rfl | rfl | rfl | rfl | rfl | rfl | rfl | rfl | rfl | rfl
  case inr.inr.inl => exact ht
  all_goals simp [whitespaceRule, numberRule, nameRule, single] at hk

/-! ### Lexemes read alone -/

theorem joinedLexemes_append (xs ys : List Lexeme) :
    joinedLexemes (xs ++ ys) = joinedLexemes xs ++ joinedLexemes ys := by
  simp [joinedLexemes]

/-- The lexemes `xs` are what the scan of their own text reads. -/
def ReadAlone (v : Version) (xs : List Lexeme) : Prop :=
  Reads (scimRules v) (joinedLexemes xs) xs []

namespace ReadAlone

theorem right {xs ys : List Lexeme} (h : ReadAlone v (xs ++ ys)) : ReadAlone v ys := by
  have h' : Reads (scimRules v) (joinedLexemes (xs ++ ys) ++ []) (xs ++ ys) [] := by
    rw [List.append_nil]
    exact h
  have h2 := (Reads.split h').2
  rwa [List.append_nil] at h2

theorem tail {x : Lexeme} {xs : List Lexeme} (h : ReadAlone v (x :: xs)) : ReadAlone v xs :=
  right (show ReadAlone v ([x] ++ xs) from h)

/-- Lexemes followed by a token that starts with a stopper are read alone as they are read in
front of it. -/
theorem left {xs ys : List Lexeme} {y : Lexeme} (h : ReadAlone v (xs ++ y :: ys))
    (hy : y.1 ∈ stopKinds) (hlast : ∀ x ∈ xs.getLast?, x.1 ≠ .whitespace) : ReadAlone v xs := by
  have h' : Reads (scimRules v) (joinedLexemes (xs ++ y :: ys) ++ []) (xs ++ y :: ys) [] := by
    rw [List.append_nil]
    exact h
  obtain ⟨h1, h2⟩ := Reads.split h'
  rw [List.append_nil, joinedLexemes_append, List.append_nil] at h1
  rw [List.append_nil] at h2
  have hsep : Separated xs (joinedLexemes (y :: ys)) := by
    generalize joinedLexemes (y :: ys) = cs at h2
    cases h2 with
    | step hm _ =>
      obtain ⟨d, t, rfl, hd⟩ := firstMatch_stopper hm hy
      rintro d' hd'
      cases hd'
      exact ⟨hd, fun _ => hlast⟩
  exact Reads.restrict h1 hsep

end ReadAlone

/-- A string token read alone is a quote, the text between the quotes and a quote. -/
theorem ReadAlone.string {text : String} (h : ReadAlone v [(.string, text)]) :
    ∃ body, text.toList = '"' :: body ++ ['"'] := by
  have hjoin : joinedLexemes [(.string, text)] = text.toList := by simp [joinedLexemes]
  unfold ReadAlone at h
  rw [hjoin] at h
  generalize hcs : text.toList = cs at h
  cases h with
  | @step _ _ _ _ n hm hdone =>
    have hdrop : cs.drop n = [] := hdone.text_eq
    obtain ⟨rest, m, rfl, hm', rfl⟩ := stringLength_eq_some (firstMatch_string hm)
    obtain ⟨body, hbody⟩ := stringTailLength_take hm'
    have hall : rest.take m = rest := by
      simp only [List.drop_succ_cons, List.drop_eq_nil_iff] at hdrop
      exact List.take_of_length_le hdrop
    exact ⟨body, by rw [← hall, hbody]; rfl⟩

/-! ### Texts read before a stopper -/

/-- The text `cs` is read as the lexemes `xs` in front of any text that starts with a stopper,
which is left as it is. -/
def ReadsBefore (v : Version) (cs : List Char) (xs : List Lexeme) : Prop :=
  ∀ b : List Char, (∀ d ∈ b.head?, Stopper d) → Reads (scimRules v) (cs ++ b) xs b

namespace ReadsBefore

/-- Lexemes read alone that do not end in whitespace are read the same before a stopper. -/
theorem of_readAlone {xs : List Lexeme} (h : ReadAlone v xs)
    (hlast : ∀ x ∈ xs.getLast?, x.1 ≠ .whitespace) : ReadsBefore v (joinedLexemes xs) xs :=
  fun _ hb => Reads.extend h fun d hd => ⟨hb d hd, fun _ => hlast⟩

theorem of_reads {cs : List Char} {xs : List Lexeme} (h : Reads (scimRules v) cs xs [])
    (hlast : ∀ x ∈ xs.getLast?, x.1 ≠ .whitespace) : ReadsBefore v cs xs :=
  fun _ hb => Reads.extend h fun d hd => ⟨hb d hd, fun _ => hlast⟩

/-- Two texts read one after the other when the second starts with a stopper. -/
theorem append {cs ds : List Char} {xs ys : List Lexeme} (h1 : ReadsBefore v cs xs)
    (h2 : ReadsBefore v ds ys) (hd : ∀ d ∈ ds.head?, Stopper d) :
    ReadsBefore v (cs ++ ds) (xs ++ ys) := by
  intro b hb
  have hdb : ∀ d ∈ (ds ++ b).head?, Stopper d := by
    cases ds with
    | nil => simpa using hb
    | cons d t => simpa using hd
  rw [List.append_assoc]
  exact (h1 (ds ++ b) hdb).append (h2 b hb)

/-- A single blank before lexemes that start with no whitespace is a whitespace token. -/
theorem blank {cs : List Char} {ys : List Lexeme} (h : ReadsBefore v cs ys) (hne : ys ≠ [])
    (hy : ∀ y ∈ ys.head?, y.1 ≠ .whitespace) :
    ReadsBefore v (' ' :: cs) ((.whitespace, " ") :: ys) :=
  fun b hb => (h b hb).blank_cons hne hy

theorem nil : ReadsBefore v [] [] := fun b _ => .done b

/-- A character that is a token of its own is read as one, whatever follows it. -/
theorem punctuation_cons {c : Char} {k : TokenKind} {cs : List Char} {ys : List Lexeme}
    (h : (c, k) ∈ Lexer.punctuation v) (hr : ReadsBefore v cs ys) :
    ReadsBefore v (c :: cs) ((k, String.ofList [c]) :: ys) :=
  fun b hb => Reads.punctuation_cons h (hr b hb)

/-- A text between a bracket or parenthesis that opens and one that closes, after a text that
the opening one stops. -/
theorem enclosed {cs ds ts : List Char} {xs zs tl : List Lexeme} {o c : Char}
    {ko kc : TokenKind} (h1 : ReadsBefore v cs xs) (hin : ReadsBefore v ds zs)
    (htl : ReadsBefore v ts tl) (ho : (o, ko) ∈ Lexer.punctuation v) (hc : (c, kc) ∈ Lexer.punctuation v)
    (hso : Stopper o) (hsc : Stopper c) :
    ReadsBefore v (cs ++ o :: ds ++ c :: ts)
      (xs ++ (ko, String.ofList [o]) :: zs ++ (kc, String.ofList [c]) :: tl) := by
  have hclose := hin.append (punctuation_cons hc htl) (by simpa using hsc)
  have hopen := h1.append (punctuation_cons ho hclose) (by simpa using hso)
  simpa only [List.append_assoc, List.cons_append] using hopen

/-- A word that the name rule takes whole. -/
theorem word {w : String} (hm : firstMatch (scimRules v) w.toList = some (.name, w.toList.length)) :
    ReadsBefore v w.toList [(.name, w)] :=
  of_reads (Reads.whole hm) (by simp)

/-- A text read before nothing is what the scan reads. -/
theorem scan {s : String} {xs : List Lexeme} (h : ReadsBefore v s.toList xs) :
    ∃ ts, scimScan v s = .ok ts ∧ lexemes ts = xs := by
  have hr := h [] (by simp)
  rw [List.append_nil] at hr
  exact (scanFrom_eq_ok_iff 0 0).mpr hr

end ReadsBefore

end ScimFilter.Lexer
