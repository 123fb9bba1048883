import ScimFilter.Proofs.Reads
import ScimFilter.Lexer.Scim
/-!
Where a text can be cut without changing its tokens. A stopper is a character that no name,
number or run of blanks reaches over; behind a token list that does not end in whitespace a
blank is one too. Before a text that starts with a stopper, every rule takes from a token's
place what it takes without that text, so a token list read alone is read the same in front of
it (`Reads.extend`), and back (`Reads.restrict`).
-/

namespace ScimFilter.Lexer

open Text

/-- A character that ends every token before it: no name character, no dot and no plus, so no
name, number or run of blanks reaches over it, blanks apart. -/
def Stopper (d : Char) : Prop := isNameChar d = false ∧ d ≠ '.' ∧ d ≠ '+'

theorem Stopper.isDigit_eq_false {d : Char} (h : Stopper d) : d.isDigit = false := by
  have := h.1
  simp only [isNameChar, Char.isAlphanum, Bool.or_eq_false_iff] at this
  exact this.1.1.2

theorem Stopper.ne_minus {d : Char} (h : Stopper d) : d ≠ '-' := by
  rintro rfl
  exact absurd h.1 (by decide)

theorem Stopper.ne_e {d : Char} (h : Stopper d) : d ≠ 'e' ∧ d ≠ 'E' := by
  constructor <;> rintro rfl <;> exact absurd h.1 (by decide)

theorem runLength_le (p : Char → Bool) (cs : List Char) : runLength p cs ≤ cs.length :=
  (List.takeWhile_sublist p).length_le

theorem runLength_append_of_lt {p : Char → Bool} {cs : List Char} (ys : List Char)
    (h : runLength p cs < cs.length) : runLength p (cs ++ ys) = runLength p cs := by
  simp only [runLength, List.takeWhile_append] at h ⊢
  rw [if_neg (by omega)]

theorem runLength_append_of_stop {p : Char → Bool} (cs : List Char) {d : Char} (t : List Char)
    (hd : p d = false) : runLength p (cs ++ d :: t) = runLength p cs := by
  simp only [runLength, List.takeWhile_append, List.takeWhile_cons, hd]
  split <;> simp_all

/-! ### Numbers -/

theorem integerLength_le (cs : List Char) : integerLength cs ≤ cs.length := by
  cases cs with
  | nil => simp [integerLength]
  | cons c rest =>
    have := runLength_le Char.isDigit rest
    by_cases h0 : c = '0'
    · simp [integerLength, h0]
    · simp only [integerLength, List.length_cons]
      split <;> omega

theorem integerLength_append (cs : List Char) {d : Char} (t : List Char) (hd : Stopper d) :
    integerLength (cs ++ d :: t) = integerLength cs := by
  cases cs with
  | nil =>
    have hd0 : d ≠ '0' := by
      rintro rfl
      exact absurd hd.1 (by decide)
    rw [List.nil_append, integerLength]
    · simp [hd.isDigit_eq_false, integerLength]
    · exact hd0
  | cons c rest =>
    by_cases h0 : c = '0'
    · simp [integerLength, h0]
    · simp [integerLength, runLength_append_of_stop _ _ hd.isDigit_eq_false]

theorem fractionLength_le (cs : List Char) : fractionLength cs ≤ cs.length := by
  cases cs with
  | nil => simp [fractionLength]
  | cons c rest =>
    have := runLength_le Char.isDigit rest
    by_cases h : c = '.'
    · simp only [fractionLength, h, List.length_cons]
      split <;> omega
    · simp [fractionLength, h]

theorem fractionLength_append (cs : List Char) {d : Char} (t : List Char) (hd : Stopper d) :
    fractionLength (cs ++ d :: t) = fractionLength cs := by
  cases cs with
  | nil => simp [fractionLength, hd.2.1]
  | cons c rest =>
    by_cases h : c = '.'
    · simp [fractionLength, h, runLength_append_of_stop _ _ hd.isDigit_eq_false]
    · simp [fractionLength, h]

theorem exponentDigitsLength_le (cs : List Char) : exponentDigitsLength cs ≤ cs.length := by
  have h1 := runLength_le Char.isDigit (cs.drop 1)
  have h0 := runLength_le Char.isDigit cs
  unfold exponentDigitsLength
  dsimp only
  split <;> split <;> simp_all <;> omega

theorem exponentDigitsLength_append (cs : List Char) {d : Char} (t : List Char) (hd : Stopper d) :
    exponentDigitsLength (cs ++ d :: t) = exponentDigitsLength cs := by
  cases cs with
  | nil =>
    have h : runLength Char.isDigit (d :: t) = 0 := by simp [runLength, hd.isDigit_eq_false]
    rw [List.nil_append]
    unfold exponentDigitsLength
    split
    · rename_i heq
      exact absurd (List.cons.inj heq).1 hd.2.2
    · rename_i heq
      exact absurd (List.cons.inj heq).1 hd.ne_minus
    · dsimp only
      rw [List.drop_zero, h]
      rfl
  | cons c rest =>
    have hr := runLength_append_of_stop rest t (p := Char.isDigit) hd.isDigit_eq_false
    have hc := runLength_append_of_stop (c :: rest) t (p := Char.isDigit) hd.isDigit_eq_false
    by_cases hp : c = '+'
    · simp [exponentDigitsLength, hp, hr]
    · by_cases hm : c = '-'
      · simp [exponentDigitsLength, hm, hr]
      · simp only [List.cons_append] at hc
        simp [exponentDigitsLength, hp, hm, hc]

theorem exponentLength_le (cs : List Char) : exponentLength cs ≤ cs.length := by
  cases cs with
  | nil => simp [exponentLength]
  | cons c rest =>
    have := exponentDigitsLength_le rest
    by_cases he : c = 'e' ∨ c = 'E'
    · rcases he with rfl | rfl <;>
      · simp only [exponentLength, List.length_cons]
        split <;> omega
    · simp only [not_or] at he
      simp [exponentLength, he.1, he.2]

theorem exponentLength_append (cs : List Char) {d : Char} (t : List Char) (hd : Stopper d) :
    exponentLength (cs ++ d :: t) = exponentLength cs := by
  cases cs with
  | nil => simp [exponentLength, hd.ne_e.1, hd.ne_e.2]
  | cons c rest =>
    have := exponentDigitsLength_append rest t hd
    by_cases he : c = 'e' ∨ c = 'E'
    · rcases he with rfl | rfl <;> simp [exponentLength, this]
    · simp only [not_or] at he
      simp [exponentLength, he.1, he.2]

/-- The sign of a number text: one character for a leading minus. -/
theorem numberSign_le (cs : List Char) : (if cs.head? = some '-' then 1 else 0) ≤ cs.length := by
  cases cs <;> simp
  split <;> omega

theorem jsonNumberLength_le (cs : List Char) : jsonNumberLength cs ≤ cs.length := by
  unfold jsonNumberLength
  dsimp only
  have hs := numberSign_le cs
  generalize (if cs.head? = some '-' then 1 else 0) = sign at hs ⊢
  have h1 := integerLength_le (cs.drop sign)
  generalize integerLength (cs.drop sign) = i at h1 ⊢
  have h2 := fractionLength_le ((cs.drop sign).drop i)
  generalize fractionLength ((cs.drop sign).drop i) = f at h2 ⊢
  have h3 := exponentLength_le ((cs.drop sign).drop (i + f))
  simp only [List.length_drop] at h1 h2 h3
  split <;> omega

theorem jsonNumberLength_append (cs : List Char) {d : Char} (t : List Char) (hd : Stopper d) :
    jsonNumberLength (cs ++ d :: t) = jsonNumberLength cs := by
  have hsign : (if (cs ++ d :: t).head? = some '-' then 1 else 0) =
      (if cs.head? = some '-' then 1 else 0) := by
    cases cs <;> simp [hd.ne_minus]
  unfold jsonNumberLength
  dsimp only
  rw [hsign]
  have hs := numberSign_le cs
  generalize (if cs.head? = some '-' then 1 else 0) = sign at hs ⊢
  rw [List.drop_append_of_le_length hs, integerLength_append _ _ hd]
  have h1 := integerLength_le (cs.drop sign)
  generalize integerLength (cs.drop sign) = i at h1 ⊢
  rw [List.drop_append_of_le_length h1, fractionLength_append _ _ hd]
  have h2 := fractionLength_le ((cs.drop sign).drop i)
  generalize fractionLength ((cs.drop sign).drop i) = f at h2 ⊢
  have h3 : i + f ≤ (cs.drop sign).length := by
    simp only [List.length_drop] at h1 h2 ⊢
    omega
  rw [List.drop_append_of_le_length h3, exponentLength_append _ _ hd]

theorem leadingZeroRefused_append {cs : List Char} {n : Nat} {d : Char} (t : List Char)
    (hd : Stopper d) (hn : n ≤ cs.length) :
    leadingZeroRefused (cs ++ d :: t) n = leadingZeroRefused cs n := by
  unfold leadingZeroRefused
  rw [List.take_append_of_le_length hn, List.drop_append_of_le_length hn]
  cases h : cs.drop n <;> simp [hd.isDigit_eq_false]

/-! ### Strings -/

theorem stringTailLength_other {c : Char} (rest : List Char) (h1 : c ≠ '"') (h2 : c ≠ '\\') :
    stringTailLength (c :: rest) = (stringTailLength rest).map (· + 1) := by
  rw [stringTailLength]
  · simpa using h1
  · intro c' rest' h _
    exact h2 h
  · intro h
    exact absurd h h2

/-- A character that neither escapes the next one nor is a lone backslash at the end is no
backslash: the last case of `stringTailLength`. -/
theorem ne_backslash_of_unescaped {c : Char} {rest : List Char}
    (h2 : ∀ c' rest', c = '\\' → rest = c' :: rest' → False) (h3 : c = '\\' → rest = [] → False) :
    c ≠ '\\' := by
  rintro rfl
  cases rest with
  | nil => exact h3 rfl rfl
  | cons c' rest' => exact h2 c' rest' rfl rfl

theorem stringTailLength_le {cs : List Char} {n : Nat} (h : stringTailLength cs = some n) :
    n ≤ cs.length := by
  induction cs using stringTailLength.induct generalizing n with
  | case1 => cases h
  | case2 => cases h; simp
  | case3 => simp [stringTailLength] at h
  | case4 c rest hc ih =>
    simp only [stringTailLength, hc, if_false] at h
    obtain ⟨m, hm, rfl⟩ := Option.map_eq_some_iff.mp h
    have := ih hm
    simp
    omega
  | case5 => cases h
  | case6 c rest h1 h2 h3 ih =>
    have hc := ne_backslash_of_unescaped h2 h3
    rw [stringTailLength_other rest h1 hc] at h
    obtain ⟨m, hm, rfl⟩ := Option.map_eq_some_iff.mp h
    have := ih hm
    simp
    omega

theorem stringTailLength_pos {cs : List Char} {n : Nat} (h : stringTailLength cs = some n) :
    0 < n := by
  induction cs using stringTailLength.induct generalizing n with
  | case1 => cases h
  | case2 => cases h; simp
  | case3 => simp [stringTailLength] at h
  | case4 c rest hc ih =>
    simp only [stringTailLength, hc, if_false] at h
    obtain ⟨m, hm, rfl⟩ := Option.map_eq_some_iff.mp h
    omega
  | case5 => cases h
  | case6 c rest h1 h2 h3 ih =>
    have hc := ne_backslash_of_unescaped h2 h3
    rw [stringTailLength_other rest h1 hc] at h
    obtain ⟨m, hm, rfl⟩ := Option.map_eq_some_iff.mp h
    omega

/-- A string literal ends at its first unescaped quote, whatever follows it. -/
theorem stringTailLength_append {cs : List Char} {n : Nat} (ys : List Char)
    (h : stringTailLength cs = some n) : stringTailLength (cs ++ ys) = some n := by
  induction cs using stringTailLength.induct generalizing n with
  | case1 => cases h
  | case2 => exact h
  | case3 => simp [stringTailLength] at h
  | case4 c rest hc ih =>
    simp only [stringTailLength, hc, if_false] at h
    obtain ⟨m, hm, rfl⟩ := Option.map_eq_some_iff.mp h
    simp [stringTailLength, hc, ih hm]
  | case5 => cases h
  | case6 c rest h1 h2 h3 ih =>
    have hc := ne_backslash_of_unescaped h2 h3
    rw [stringTailLength_other rest h1 hc] at h
    obtain ⟨m, hm, rfl⟩ := Option.map_eq_some_iff.mp h
    rw [List.cons_append, stringTailLength_other _ h1 hc, ih hm]
    rfl

/-- A string literal that ends within a text is a string literal of that text alone. -/
theorem stringTailLength_of_append {cs ys : List Char} {n : Nat}
    (h : stringTailLength (cs ++ ys) = some n) (hn : n ≤ cs.length) :
    stringTailLength cs = some n := by
  induction cs using stringTailLength.induct generalizing n with
  | case1 =>
    have := stringTailLength_pos h
    simp at hn
    omega
  | case2 => simpa [stringTailLength] using h
  | case3 => simp [stringTailLength] at h
  | case4 c rest hc ih =>
    simp only [List.cons_append, stringTailLength, hc, if_false] at h
    obtain ⟨m, hm, rfl⟩ := Option.map_eq_some_iff.mp h
    simp only [List.length_cons] at hn
    simp [stringTailLength, hc, ih hm (by omega)]
  | case5 =>
    cases ys with
    | nil => cases h
    | cons c rest =>
      simp only [List.cons_append, List.nil_append, stringTailLength] at h
      split at h
      · cases h
      · obtain ⟨m, -, rfl⟩ := Option.map_eq_some_iff.mp h
        simp at hn
  | case6 c rest h1 h2 h3 ih =>
    have hc := ne_backslash_of_unescaped h2 h3
    rw [List.cons_append, stringTailLength_other _ h1 hc] at h
    obtain ⟨m, hm, rfl⟩ := Option.map_eq_some_iff.mp h
    simp only [List.length_cons] at hn
    rw [stringTailLength_other rest h1 hc, ih hm (by omega)]
    rfl

theorem stringLength_cons {c : Char} (rest : List Char) (hc : c ≠ '"') :
    stringLength (c :: rest) = none := by
  simp [stringLength, hc]

/-- A string literal at the start of a text is a quote and the literal's tail. -/
theorem stringLength_eq_some {cs : List Char} {n : Nat} (h : stringLength cs = some n) :
    ∃ rest m, cs = '"' :: rest ∧ stringTailLength rest = some m ∧ n = m + 1 := by
  cases cs with
  | nil => cases h
  | cons c rest =>
    by_cases hc : c = '"'
    · subst hc
      obtain ⟨m, hm, rfl⟩ := Option.map_eq_some_iff.mp h
      exact ⟨rest, m, rfl, hm, rfl⟩
    · rw [stringLength_cons _ hc] at h
      cases h

theorem stringLength_append {cs : List Char} {n : Nat} (ys : List Char)
    (h : stringLength cs = some n) : stringLength (cs ++ ys) = some n := by
  obtain ⟨rest, m, rfl, hm, rfl⟩ := stringLength_eq_some h
  simp [stringLength, stringTailLength_append ys hm]

theorem stringLength_le {cs : List Char} {n : Nat} (h : stringLength cs = some n) :
    n ≤ cs.length := by
  obtain ⟨rest, m, rfl, hm, rfl⟩ := stringLength_eq_some h
  have := stringTailLength_le hm
  simp
  omega

/-! ### The rules -/

theorem runLength_lt_iff {p : Char → Bool} {cs : List Char} :
    runLength p cs < cs.length ↔ ∃ c ∈ cs, p c = false := by
  induction cs with
  | nil => simp [runLength]
  | cons c cs ih =>
    cases hc : p c
    · simp [runLength, hc]
    · have hrun : runLength p (c :: cs) = runLength p cs + 1 := by
        simp [runLength, hc]
      rw [hrun, List.length_cons, Nat.add_lt_add_iff_right, ih]
      simp [hc]

theorem isBlank_quote : isBlank '"' = false := by decide

theorem mem_scimRules {v : Version} {r : Rule TokenKind} (h : r ∈ scimRules v) :
    r = whitespaceRule ∨ r = numberRule ∨ r = stringRule ∨ r = single .dot '.' ∨
      r = single .colon ':' ∨ r = single .slash '/' ∨ r = single .openParen '(' ∨
      r = single .closeParen ')' ∨ r = nameRule ∨ r = single .openBracket '[' ∨
      r = single .closeBracket ']' := by
  cases v <;> simp only [scimRules, Version.supportsValueFilters, if_true, Bool.false_eq_true,
    if_false, List.mem_append, List.mem_cons, List.not_mem_nil, or_false] at h
  · rcases h with h | h | h | h | h | h | h | h | h <;> simp [h]
  · rcases h with (h | h | h | h | h | h | h | h | h) | h | h <;> simp [h]

theorem takes_quote {v : Version} {r : Rule TokenKind} {rest : List Char} {m : Nat}
    (hr : r ∈ scimRules v) (ht : r.Takes ('"' :: rest) m) : r = stringRule := by
  obtain ⟨ht, hm, -⟩ := ht
  rcases mem_scimRules hr with rfl | rfl | rfl | rfl | rfl | rfl | rfl | rfl | rfl | rfl | rfl
  all_goals simp_all [whitespaceRule, numberRule, stringRule, single, nameRule, runLength, isBlank_quote, jsonNumberLength, integerLength, isNameChar]

/-- At a double quote only the string rule can take anything. -/
theorem firstMatch_quote (v : Version) (rest : List Char) {k : TokenKind} {n : Nat}
    (h : firstMatch (scimRules v) ('"' :: rest) = some (k, n)) :
    k = .string ∧ stringLength ('"' :: rest) = some n := by
  obtain ⟨pre, r, post, hrules, -, rfl, ht⟩ :=
    (firstMatch_eq_some_iff (scimRules v) _ k n).mp h
  have hr : r ∈ scimRules v := by simp [hrules]
  obtain rfl := takes_quote hr ht
  exact ⟨rfl, ht.1⟩

/-- Whatever is not a run of blanks starts with a character that is not blank. -/
theorem firstMatch_not_whitespace (v : Version) {cs : List Char} {k : TokenKind} {n : Nat}
    (h : firstMatch (scimRules v) cs = some (k, n)) (hk : k ≠ .whitespace) :
    ∃ c t, cs = c :: t ∧ isBlank c = false := by
  cases cs with
  | nil =>
    have := firstMatch_bounds _ _ h
    simp at this
    omega
  | cons c t =>
    refine ⟨c, t, rfl, ?_⟩
    cases hc : isBlank c
    · rfl
    · have hrun : 0 < runLength isBlank (c :: t) := by simp [runLength, hc]
      have hle := runLength_le isBlank (c :: t)
      simp only [scimRules, List.cons_append, firstMatch, whitespaceRule] at h
      rw [if_pos ⟨hrun, hle⟩] at h
      cases h
      exact absurd rfl hk

/-- What a cut between a text and a character needs so that no rule sees past it: the text is
not empty, the character stops names, numbers and, after something not blank, blanks, and a
string at the start of the text is closed within it. -/
structure Cut (cs : List Char) (d : Char) : Prop where
  ne_nil : cs ≠ []
  stopper : Stopper d
  blank : isBlank d = true → runLength isBlank cs < cs.length
  quote : cs.head? = some '"' → (stringLength cs).isSome

theorem take_append_of_cut {v : Version} {r : Rule TokenKind} (hr : r ∈ scimRules v)
    {cs : List Char} {d : Char} (t : List Char) (hcut : Cut cs d) :
    r.take (cs ++ d :: t) = r.take cs ∧ ∀ m, r.take cs = some m → m ≤ cs.length := by
  obtain ⟨c, rest, rfl⟩ := List.exists_cons_of_ne_nil hcut.ne_nil
  rcases mem_scimRules hr with rfl | rfl | rfl | rfl | rfl | rfl | rfl | rfl | rfl | rfl | rfl
  case inl =>
    have hrun : runLength isBlank (c :: rest ++ d :: t) = runLength isBlank (c :: rest) := by
      cases hb : isBlank d
      · exact runLength_append_of_stop _ _ hb
      · exact runLength_append_of_lt _ (hcut.blank hb)
    refine ⟨by simp only [whitespaceRule, hrun], ?_⟩
    rintro m ⟨⟩
    exact runLength_le _ _
  case inr.inl =>
    have hn := jsonNumberLength_le (c :: rest)
    refine ⟨?_, ?_⟩
    · simp only [numberRule, jsonNumberLength_append _ _ hcut.stopper,
        leadingZeroRefused_append _ hcut.stopper hn]
    · intro m hm
      simp only [numberRule] at hm
      split at hm
      · cases hm
      · cases hm
        exact hn
  case inr.inr.inl =>
    refine ⟨?_, fun m hm => stringLength_le hm⟩
    by_cases hc : c = '"'
    · obtain ⟨n, hn⟩ := Option.isSome_iff_exists.mp (hcut.quote (by simp [hc]))
      exact (stringLength_append _ hn).trans hn.symm
    · simp only [stringRule, List.cons_append, stringLength_cons _ hc]
  case inr.inr.inr.inr.inr.inr.inr.inr.inl =>
    refine ⟨by simp only [nameRule, runLength_append_of_stop _ _ hcut.stopper.1], ?_⟩
    rintro m ⟨⟩
    exact runLength_le _ _
  all_goals
    refine ⟨by simp [single], fun m hm => ?_⟩
    simp only [single] at hm
    split at hm
    · cases hm
      simp
    · cases hm


theorem firstMatch_append_of_cut (v : Version) {cs : List Char} {d : Char} (t : List Char)
    (hcut : Cut cs d) : firstMatch (scimRules v) (cs ++ d :: t) = firstMatch (scimRules v) cs :=
  firstMatch_congr fun _ hr =>
    Rule.takes_append_iff (take_append_of_cut hr t hcut).1 (take_append_of_cut hr t hcut).2

theorem stringLength_of_append {cs ys : List Char} {n : Nat} (h : stringLength (cs ++ ys) = some n)
    (hn : n ≤ cs.length) : stringLength cs = some n := by
  cases cs with
  | nil => simp at hn; have := stringLength_le h; obtain ⟨_, m, _, _, rfl⟩ := stringLength_eq_some h; omega
  | cons c rest =>
    obtain ⟨rest', m, hcs, hm, rfl⟩ := stringLength_eq_some h
    simp only [List.cons_append, List.cons.injEq] at hcs
    obtain ⟨rfl, rfl⟩ := hcs
    simp only [List.length_cons] at hn
    simp [stringLength, stringTailLength_of_append hm (by omega)]

/-- Text may follow the lexemes `xs` without changing them: it is empty or starts with a
stopper, and a blank only after a last lexeme that is not whitespace. -/
def Separated (xs : List Lexeme) (b : List Char) : Prop :=
  ∀ d ∈ b.head?, Stopper d ∧ (isBlank d = true → ∀ x ∈ xs.getLast?, x.1 ≠ .whitespace)

theorem Separated.tail {x : Lexeme} {xs : List Lexeme} {b : List Char}
    (h : Separated (x :: xs) b) : Separated xs b := by
  intro d hd
  refine ⟨(h d hd).1, fun hb y hy => (h d hd).2 hb y ?_⟩
  simp [List.getLast?_cons, Option.mem_def.mp hy]

/-- A lexeme that is not whitespace has a character that is not blank. -/
theorem Reads.exists_nonblank {v : Version} {cs rest : List Char} {xs : List Lexeme}
    (h : Reads (scimRules v) cs xs rest) {x : Lexeme} (hx : x ∈ xs) (hk : x.1 ≠ .whitespace) :
    ∃ c ∈ x.2.toList, isBlank c = false := by
  induction h with
  | done => cases hx
  | @step cs rest xs k n hm _ ih =>
    rcases List.mem_cons.mp hx with rfl | hx
    · obtain ⟨c, t, rfl, hc⟩ := firstMatch_not_whitespace v hm hk
      have hn := (firstMatch_bounds _ _ hm).1
      refine ⟨c, ?_, hc⟩
      obtain ⟨n', rfl⟩ := Nat.exists_eq_add_of_lt hn
      simp
    · exact ih hx

theorem Reads.nonblank_of_last {v : Version} {cs rest : List Char} {xs : List Lexeme}
    (h : Reads (scimRules v) cs xs rest) (hne : xs ≠ [])
    (hlast : ∀ x ∈ xs.getLast?, x.1 ≠ .whitespace) :
    ∃ c ∈ joinedLexemes xs, isBlank c = false := by
  obtain ⟨z, hz⟩ := Option.isSome_iff_exists.mp (List.getLast?_isSome.mpr hne)
  obtain ⟨c, hc, hcb⟩ := h.exists_nonblank (List.mem_of_getLast? hz) (hlast z hz)
  exact ⟨c, List.mem_flatten.mpr ⟨z.2.toList, List.mem_map.mpr ⟨z, List.mem_of_getLast? hz, rfl⟩, hc⟩,
    hcb⟩

theorem Reads.joined_ne_nil {v : Version} {cs rest : List Char} {xs : List Lexeme}
    (h : Reads (scimRules v) cs xs rest) (hne : xs ≠ []) : joinedLexemes xs ≠ [] := by
  cases h with
  | done => exact absurd rfl hne
  | @step cs rest xs k n hm _ =>
    have hb := firstMatch_bounds _ _ hm
    intro hnil
    simp only [joinedLexemes, List.map_cons, List.flatten_cons, String.toList_ofList,
      List.append_eq_nil_iff, List.take_eq_nil_iff] at hnil
    rcases hnil.1 with h0 | rfl
    · omega
    · simp at hb
      omega

/-- The cut behind a token list read alone, before a text the list is separated from. -/
theorem Reads.cut {v : Version} {cs rest : List Char} {xs : List Lexeme}
    (h : Reads (scimRules v) cs xs rest) (hne : xs ≠ []) {d : Char} {t : List Char}
    (hsep : Separated xs (d :: t)) (hquote : (joinedLexemes xs).head? = some '"' →
      (stringLength (joinedLexemes xs)).isSome) : Cut (joinedLexemes xs) d := by
  obtain ⟨hstop, hblank⟩ := hsep d rfl
  refine ⟨h.joined_ne_nil hne, hstop, fun hd => ?_, hquote⟩
  obtain ⟨c, hc, hcb⟩ := h.nonblank_of_last hne (hblank hd)
  exact runLength_lt_iff.mpr ⟨c, hc, hcb⟩

/-- A token list read alone is read the same with a separated text behind it. -/
theorem Reads.extend {v : Version} {cs : List Char} {xs : List Lexeme}
    (h : Reads (scimRules v) cs xs []) {b : List Char} (hsep : Separated xs b) :
    Reads (scimRules v) (cs ++ b) xs b := by
  generalize hr : ([] : List Char) = r at h
  induction h with
  | done r =>
    subst hr
    exact .done b
  | @step cs r xs k n hm hrd ih =>
    subst hr
    have hb := firstMatch_bounds _ _ hm
    have hm' : firstMatch (scimRules v) (cs ++ b) = some (k, n) := by
      cases b with
      | nil => simpa using hm
      | cons d t =>
        have hall := Reads.step hm hrd
        have hcs : joinedLexemes ((k, String.ofList (cs.take n)) :: xs) = cs := by
          simpa using hall.text_eq.symm
        have hcut : Cut cs d := by
          rw [← hcs]
          refine hall.cut (List.cons_ne_nil _ _) hsep fun hq => ?_
          rw [hcs] at hq ⊢
          obtain ⟨c, t', rfl⟩ := List.exists_cons_of_ne_nil (show cs ≠ [] by rintro rfl; cases hq)
          simp only [List.head?_cons, Option.some.injEq] at hq
          subst hq
          rw [(firstMatch_quote v t' hm).2]
          rfl
        rw [firstMatch_append_of_cut v t hcut]
        exact hm
    have e1 : (cs ++ b).drop n = cs.drop n ++ b := List.drop_append_of_le_length hb.2
    have e2 : (cs ++ b).take n = cs.take n := List.take_append_of_le_length hb.2
    have := Reads.step hm' (e1 ▸ ih hsep.tail rfl)
    rwa [e2] at this

/-- A token list read with a separated text behind it is read the same alone. -/
theorem Reads.restrict {v : Version} {xs : List Lexeme} {b : List Char}
    (h : Reads (scimRules v) (joinedLexemes xs ++ b) xs b) (hsep : Separated xs b) :
    Reads (scimRules v) (joinedLexemes xs) xs [] := by
  generalize hcs : joinedLexemes xs ++ b = cs at h
  induction h with
  | done r => exact .done []
  | @step cs r xs k n hm hrd ih =>
    have hb := firstMatch_bounds _ _ hm
    have htake : (cs.take n).length = n := by simp; omega
    have hjoin : joinedLexemes ((k, String.ofList (cs.take n)) :: xs) =
        cs.take n ++ joinedLexemes xs := by
      simp [joinedLexemes]
    have hdrop : cs.drop n = joinedLexemes xs ++ r := hrd.text_eq
    rw [hjoin] at hcs ⊢
    have hm' : firstMatch (scimRules v) (cs.take n ++ joinedLexemes xs) = some (k, n) := by
      cases r with
      | nil =>
        rw [List.append_nil] at hcs
        rw [hcs]
        exact hm
      | cons d t =>
        have hall := Reads.step hm hrd
        have hcut := hall.cut (List.cons_ne_nil _ _) hsep fun hq => ?_
        · rw [hjoin] at hcut
          rw [← firstMatch_append_of_cut v t hcut, hcs]
          exact hm
        · rw [hjoin] at hq ⊢
          have hne : cs.take n ++ joinedLexemes xs ≠ [] := by
            simp only [ne_eq, List.append_eq_nil_iff, List.take_eq_nil_iff, not_and]
            intro h0
            rcases h0 with h0 | rfl
            · omega
            · simp at hb
              omega
          obtain ⟨c, a, ha⟩ := List.exists_cons_of_ne_nil hne
          rw [ha] at hq hcs ⊢
          simp only [List.head?_cons, Option.some.injEq] at hq
          subst hq
          rw [← hcs, List.cons_append] at hm
          have hlen : n ≤ ('"' :: a).length := by
            rw [← ha, List.length_append, htake]
            omega
          have hstr : stringLength (('"' :: a) ++ d :: t) = some n := (firstMatch_quote v _ hm).2
          rw [stringLength_of_append hstr hlen]
          rfl
    have hrest := ih hsep.tail hdrop.symm
    have := Reads.step hm' (by rw [List.drop_left' htake]; exact hrest)
    rwa [List.take_left' htake] at this

/-! ### Single characters and words -/

/-- The characters that are tokens of their own, with their kinds. -/
def punctuation (v : Version) : List (Char × TokenKind) :=
  [('.', .dot), (':', .colon), ('/', .slash), ('(', .openParen), (')', .closeParen)] ++
    (if v.supportsValueFilters then [('[', .openBracket), (']', .closeBracket)] else [])

theorem firstMatch_punctuation {v : Version} {c : Char} {k : TokenKind}
    (h : (c, k) ∈ punctuation v) (t : List Char) : firstMatch (scimRules v) (c :: t) = some (k, 1) := by
  have hl : isNameChar '[' = false ∧ isNameChar ']' = false := by decide
  cases v <;> simp [punctuation, Version.supportsValueFilters] at h
  · rcases h with ⟨rfl, rfl⟩ | ⟨rfl, rfl⟩ | ⟨rfl, rfl⟩ | ⟨rfl, rfl⟩ | ⟨rfl, rfl⟩ <;>
      simp [scimRules, firstMatch, whitespaceRule, numberRule, stringRule, single, runLength,
        jsonNumberLength, integerLength, leadingZeroRefused, isBlank, stringLength]
  · rcases h with ⟨rfl, rfl⟩ | ⟨rfl, rfl⟩ | ⟨rfl, rfl⟩ | ⟨rfl, rfl⟩ | ⟨rfl, rfl⟩ | ⟨rfl, rfl⟩ |
      ⟨rfl, rfl⟩ <;>
      simp [scimRules, firstMatch, whitespaceRule, numberRule, stringRule, single, nameRule,
        runLength, jsonNumberLength, integerLength, leadingZeroRefused, isBlank, stringLength,
        Version.supportsValueFilters, hl]

/-- A character that is a token of its own is read as one, whatever follows it. -/
theorem Reads.punctuation_cons {v : Version} {c : Char} {k : TokenKind} {t rest : List Char}
    {ys : List Lexeme} (h : (c, k) ∈ punctuation v) (hr : Reads (scimRules v) t ys rest) :
    Reads (scimRules v) (c :: t) ((k, String.ofList [c]) :: ys) rest :=
  .step (firstMatch_punctuation h t) hr

theorem isBlank_space : isBlank ' ' = true := by decide

/-- A single blank before a token that is not whitespace is a whitespace token of its own. -/
theorem Reads.blank_cons {v : Version} {cs rest : List Char} {ys : List Lexeme}
    (hr : Reads (scimRules v) cs ys rest) (hne : ys ≠ [])
    (hy : ∀ y ∈ ys.head?, y.1 ≠ .whitespace) :
    Reads (scimRules v) (' ' :: cs) ((.whitespace, String.ofList [' ']) :: ys) rest := by
  obtain ⟨y, ys', rfl⟩ := List.exists_cons_of_ne_nil hne
  cases hr with
  | @step cs rest xs k n hm hr' =>
    obtain ⟨c, t, rfl, hc⟩ := firstMatch_not_whitespace v hm (hy _ rfl)
    have h1 : firstMatch (scimRules v) (' ' :: c :: t) = some (.whitespace, 1) := by
      simp [scimRules, firstMatch, whitespaceRule, runLength, hc, isBlank_space]
    exact .step h1 (.step hm hr')

/-- The words of the grammar are names. -/
theorem firstMatch_keyword (v : Version) {w : String}
    (hw : w ∈ ["and", "or", "not", "true", "false", "null"]) :
    firstMatch (scimRules v) w.toList = some (.name, w.toList.length) := by
  simp only [List.mem_cons, List.not_mem_nil, or_false] at hw
  rcases hw with rfl | rfl | rfl | rfl | rfl | rfl <;> cases v <;> decide

theorem firstMatch_operator (v : Version) (op : Operator) :
    firstMatch (scimRules v) op.word.toList = some (.name, op.word.toList.length) := by
  cases op <;> cases v <;> decide

end ScimFilter.Lexer
