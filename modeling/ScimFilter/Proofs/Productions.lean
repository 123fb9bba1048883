import ScimFilter.Proofs.Derivation
/-!
One lemma pair per production of the descent below the expression level: what a successful call
says about the tokens it took, and what a call on tokens of the right shape returns. The
recursive productions are assembled from these in `Proofs/Descent`.
-/

namespace ScimFilter.Grammar

/-! ### Results of the monad -/

theorem bind_eq_ok {ε α β : Type} {x : Except ε α} {f : α → Except ε β} {b : β} :
    x >>= f = .ok b ↔ ∃ a, x = .ok a ∧ f a = .ok b := by
  cases x <;> simp [bind, Except.bind]

theorem ok_bind {ε α β : Type} (a : α) (f : α → Except ε β) : (Except.ok a >>= f) = f a := rfl

theorem map_eq_ok {ε α β : Type} {f : α → β} {x : Except ε α} {b : β} :
    f <$> x = .ok b ↔ ∃ a, x = .ok a ∧ f a = b := by
  cases x <;> simp [Functor.map, Except.map]

theorem except_map_eq_ok {ε α β : Type} {f : α → β} {x : Except ε α} {b : β} :
    x.map f = .ok b ↔ ∃ a, x = .ok a ∧ f a = b :=
  map_eq_ok

/-! ### Lexemes -/

theorem lexeme_of_kind {t : Token TokenKind} {k : TokenKind} (h : t.kind = k) :
    t.lexeme = (k, t.text) := by
  simp [Token.lexeme, h]

theorem kind_of_lexeme {t : Token TokenKind} {k : TokenKind} {x : String} (h : t.lexeme = (k, x)) :
    t.kind = k :=
  congrArg Prod.fst h

theorem text_of_lexeme {t : Token TokenKind} {k : TokenKind} {x : String} (h : t.lexeme = (k, x)) :
    t.text = x :=
  congrArg Prod.snd h

theorem lexemes_eq_nil {p : Tokens} (h : lexemes p = []) : p = [] :=
  List.map_eq_nil_iff.mp h

theorem lexemes_eq_cons {p : Tokens} {ys : List Lexeme} {y : Lexeme} (h : lexemes p = y :: ys) :
    ∃ t r, p = t :: r ∧ t.lexeme = y ∧ lexemes r = ys :=
  List.map_eq_cons_iff.mp h

theorem lexemes_eq_append_cons {p : Tokens} {xs ys : List Lexeme} {y : Lexeme}
    (h : lexemes p = xs ++ y :: ys) :
    ∃ q t r, p = q ++ t :: r ∧ lexemes q = xs ∧ t.lexeme = y ∧ lexemes r = ys := by
  obtain ⟨q, r', rfl, hq, hr'⟩ := List.map_eq_append_iff.mp h
  obtain ⟨t, r, rfl, ht, hr⟩ := List.map_eq_cons_iff.mp hr'
  exact ⟨q, t, r, rfl, hq, ht, hr⟩

theorem isAny_eq_true {t : Token TokenKind} {kinds : List TokenKind} :
    t.isAny kinds = true ↔ t.kind ∈ kinds := by
  simp [Token.isAny]

theorem isName_eq_true {t : Token TokenKind} {word : String} :
    t.isName word = true ↔ t.lexeme = (.name, word) := by
  simp [Token.isName, Token.lexeme]

/-! ### Single tokens -/

theorem expect_eq_ok {ctx : Context} {k : TokenKind} {ts : Tokens} {r : Shorter ts}
    (h : expect ctx k ts = .ok r) : ∃ t, ts = t :: r.1 ∧ t.kind = k := by
  obtain ⟨r, hr⟩ := r
  cases ts with
  | nil => simp [expect] at h
  | cons t rest =>
    simp only [expect] at h
    split at h
    · rename_i hk
      cases h
      exact ⟨t, rfl, beq_iff_eq.mp hk⟩
    · cases h

theorem expect_cons {ctx : Context} {k : TokenKind} {t : Token TokenKind} (rest : Tokens)
    (h : t.kind = k) : expect ctx k (t :: rest) = .ok ⟨rest, Nat.lt_succ_self _⟩ := by
  simp [expect, h]

theorem atLogical_eq_true {word : String} {ts : Tokens} (h : atLogical word ts = true) :
    ∃ w n rest, ts = w :: n :: rest ∧ w.kind = .whitespace ∧ n.lexeme = (.name, word) := by
  match ts, h with
  | w :: n :: rest, h =>
    simp only [atLogical, Bool.and_eq_true, beq_iff_eq, Token.isName] at h
    exact ⟨w, n, rest, rfl, h.1, by simp [Token.lexeme, h.2.1, h.2.2]⟩

theorem atLogical_of_not_whitespace {word : String} {t : Token TokenKind} (rest : Tokens)
    (h : t.kind ≠ .whitespace) : atLogical word (t :: rest) = false := by
  cases rest <;> simp [atLogical, h]

theorem logicalOperator_eq_ok {ctx : Context} {ts : Tokens} {r : Shorter ts}
    (h : logicalOperator ctx ts = .ok r) :
    ∃ w n w', ts = w :: n :: w' :: r.1 ∧ w.kind = .whitespace ∧ n.kind = .name ∧
      w'.kind = .whitespace := by
  simp only [logicalOperator] at h
  obtain ⟨⟨r1, h1⟩, e1, h⟩ := bind_eq_ok.mp h
  obtain ⟨⟨r2, h2⟩, e2, h⟩ := bind_eq_ok.mp h
  obtain ⟨⟨r3, h3⟩, e3, h⟩ := bind_eq_ok.mp h
  cases h
  obtain ⟨w, hts, hw⟩ := expect_eq_ok e1
  obtain ⟨n, hr1, hn⟩ := expect_eq_ok e2
  obtain ⟨w', hr2, hw'⟩ := expect_eq_ok e3
  refine ⟨w, n, w', ?_, hw, hn, hw'⟩
  dsimp only at hts hr1 hr2 ⊢
  rw [hts, hr1, hr2]

theorem logicalOperator_cons (ctx : Context) {w n w' : Token TokenKind} (rest : Tokens)
    (hw : w.kind = .whitespace) (hn : n.kind = .name) (hw' : w'.kind = .whitespace) :
    ∃ h, logicalOperator ctx (w :: n :: w' :: rest) = .ok ⟨rest, h⟩ := by
  refine ⟨by simp only [List.length_cons]; omega, ?_⟩
  simp only [logicalOperator, expect_cons _ hw, expect_cons _ hn, expect_cons _ hw', ok_bind]
  rfl

theorem operator_eq_ok {ctx : Context} {ts : Tokens} {op : Operator} {r : Shorter ts}
    (h : operator ctx ts = .ok (op, r)) : ∃ t, ts = t :: r.1 ∧ IsOperator t.lexeme op := by
  obtain ⟨r, hr⟩ := r
  cases ts with
  | nil => simp [operator] at h
  | cons t rest =>
    simp only [operator] at h
    split at h
    · rename_i op' hop
      simp only [Except.ok.injEq, Prod.mk.injEq, Subtype.mk.injEq] at h
      obtain ⟨rfl, rfl⟩ := h
      split at hop
      · exact ⟨t, rfl, beq_iff_eq.mp ‹_›, hop⟩
      · cases hop
    · cases h

theorem operator_cons {ctx : Context} {t : Token TokenKind} {op : Operator} (rest : Tokens)
    (h : IsOperator t.lexeme op) : operator ctx (t :: rest) = .ok (op, ⟨rest, Nat.lt_succ_self _⟩) := by
  obtain ⟨hk, hw⟩ := h
  simp [operator, Token.lexeme] at hk hw ⊢
  simp [hk, hw]

theorem compareValue_eq_ok {ctx : Context} {ts : Tokens} {v : CompareValue} {r : Shorter ts}
    (h : compareValue ctx ts = .ok (v, r)) : ∃ t, ts = t :: r.1 ∧ IsLiteral t.lexeme v := by
  obtain ⟨r, hr⟩ := r
  cases ts with
  | nil => simp [compareValue] at h
  | cons t rest =>
    obtain ⟨k, x, o, p⟩ := t
    simp only [compareValue] at h
    split at h
    · rename_i v' hv
      simp only [Except.ok.injEq, Prod.mk.injEq, Subtype.mk.injEq] at h
      obtain ⟨rfl, rfl⟩ := h
      refine ⟨_, rfl, ?_⟩
      simp only [Token.lexeme]
      cases k <;> simp at hv
      case number =>
        obtain ⟨hfinite, rfl⟩ := hv
        exact .number x hfinite
      case string =>
        subst hv
        exact .string x
      case name =>
        split at hv
        · rename_i h; cases hv; subst h; exact .true
        split at hv
        · rename_i h; cases hv; subst h; exact .false
        split at hv
        · rename_i h; cases hv; subst h; exact .null
        · cases hv
    · cases h

theorem compareValue_cons {ctx : Context} {t : Token TokenKind} {v : CompareValue} (rest : Tokens)
    (h : IsLiteral t.lexeme v) :
    compareValue ctx (t :: rest) = .ok (v, ⟨rest, Nat.lt_succ_self _⟩) := by
  obtain ⟨k, x, o, p⟩ := t
  simp only [Token.lexeme] at h
  cases h <;> simp [compareValue, *]

/-! ### Attribute paths -/

theorem not_mem_pathStopKinds {k : TokenKind} (h : k ∈ pathKinds) : k ∉ pathStopKinds := by
  cases k <;> simp_all [pathKinds, pathStopKinds]

theorem pathTexts_eq_ok {ctx : Context} {ts : Tokens}
    {x : { p : List String × Tokens // p.1.length + p.2.length = ts.length }}
    (h : pathTexts ctx ts = .ok x) :
    ∃ q, ts = q ++ x.1.2 ∧ x.1.1 = q.map Token.text ∧ (∀ t ∈ q, t.kind ∈ pathKinds) ∧
      ∀ t ∈ x.1.2.head?, t.kind ∈ pathStopKinds := by
  induction ts with
  | nil =>
    simp only [pathTexts, Except.ok.injEq] at h
    subst h
    exact ⟨[], rfl, rfl, by simp, by simp⟩
  | cons t rest ih =>
    simp only [pathTexts] at h
    split at h
    · rename_i hstop
      cases h
      exact ⟨[], rfl, rfl, by simp, by simpa [isAny_eq_true] using hstop⟩
    split at h
    · cases h
    rename_i hpath
    split at h
    · rename_i texts r hr hrest
      cases h
      obtain ⟨q, hq, htexts, hkinds, hstop⟩ := ih hrest
      dsimp only at hq htexts hstop
      refine ⟨t :: q, by simp [hq], by simp [htexts], ?_, hstop⟩
      intro u hu
      rcases List.mem_cons.mp hu with rfl | hu
      · simpa [isAny_eq_true] using hpath
      · exact hkinds u hu
    · cases h

theorem pathTexts_append (ctx : Context) {q r : Tokens} (hq : ∀ t ∈ q, t.kind ∈ pathKinds)
    (hr : ∀ t ∈ r.head?, t.kind ∈ pathStopKinds) :
    ∃ h, pathTexts ctx (q ++ r) = .ok ⟨(q.map Token.text, r), h⟩ := by
  induction q with
  | nil =>
    cases r with
    | nil => exact ⟨rfl, by simp [pathTexts]⟩
    | cons t rest =>
      have hstop : t.isAny pathStopKinds = true := isAny_eq_true.mpr (hr t rfl)
      exact ⟨by simp, by simp [pathTexts, hstop]⟩
  | cons t q ih =>
    obtain ⟨h, hq'⟩ := ih (fun u hu => hq u (List.mem_cons_of_mem t hu))
    have hpath : t.isAny pathKinds = true := isAny_eq_true.mpr (hq t List.mem_cons_self)
    have hstop : t.isAny pathStopKinds = false :=
      Bool.eq_false_iff.mpr fun h => not_mem_pathStopKinds (hq t List.mem_cons_self) (isAny_eq_true.mp h)
    refine ⟨by simp at h ⊢; omega, ?_⟩
    simp [pathTexts, hpath, hstop, hq']

theorem parse_ne_ok_empty {attr : AttributePath} : AttributePath.parse "" ≠ .ok attr := by
  intro h
  cases h

theorem attributePath_eq_ok {ctx : Context} {ts : Tokens} {attr : AttributePath} {r : Shorter ts}
    (h : attributePath ctx ts = .ok (attr, r)) :
    ∃ q, ts = q ++ r.1 ∧ IsAttributePath (lexemes q) attr ∧
      ∀ t ∈ r.1.head?, t.kind ∈ pathStopKinds := by
  simp only [attributePath] at h
  split at h
  · cases h
  · cases h
  · rename_i text more rest hlen htexts
    obtain ⟨q, hq, hmap, hkinds, hstop⟩ := pathTexts_eq_ok htexts
    dsimp only at hq hmap hstop
    split at h
    · cases h
    split at h
    · rename_i p hp
      cases h
      refine ⟨q, hq, ⟨?_, ?_, ?_⟩, hstop⟩
      · rintro hnil
        simp [lexemes] at hnil
        subst hnil
        cases hmap
      · simpa [lexemes, Token.lexeme] using hkinds
      · simpa [hmap] using hp
    · cases h

theorem attributePath_append (ctx : Context) {q : Tokens} (r : Tokens) {attr : AttributePath}
    (hq : IsAttributePath (lexemes q) attr) (hr : ∀ t ∈ r.head?, t.kind ∈ pathStopKinds) :
    ∃ h, attributePath ctx (q ++ r) = .ok (attr, ⟨r, h⟩) := by
  have hkinds : ∀ t ∈ q, t.kind ∈ pathKinds := by
    simpa [lexemes, Token.lexeme] using hq.kinds
  obtain ⟨h, htexts⟩ := pathTexts_append ctx hkinds hr
  have hreads : AttributePath.parse (String.join (q.map Token.text)) = .ok attr := by
    simpa using hq.reads
  cases q with
  | nil => exact absurd rfl hq.ne_nil
  | cons t q =>
    have hjoin : AttributePath.parse (t.text ++ String.join (q.map Token.text)) = .ok attr := by
      simpa using hreads
    have hne : ¬ (t.text = "" ∧ String.join (q.map Token.text) = "") := by
      rintro ⟨h1, h2⟩
      simp only [h1, h2, String.append_empty] at hjoin
      exact parse_ne_ok_empty hjoin
    refine ⟨by simp only [List.length_append, List.length_cons]; omega, ?_⟩
    simp only [attributePath, htexts]
    simp [hne, hjoin]

theorem head_isName_not_iff {q : Tokens} (r : Tokens) (hq : q ≠ []) :
    (q ++ r).head?.any (·.isName "not") = true ↔ (lexemes q).head? = some notKeyword := by
  obtain ⟨t, q', rfl⟩ := List.exists_cons_of_ne_nil hq
  simp [isName_eq_true, notKeyword]

theorem head_not_openParen {q : Tokens} (r : Tokens) (hq : q ≠ [])
    (hkinds : ∀ t ∈ q, t.kind ∈ pathKinds) :
    (q ++ r).head?.any (·.kind == .openParen) = false := by
  obtain ⟨t, q', rfl⟩ := List.exists_cons_of_ne_nil hq
  have := hkinds t List.mem_cons_self
  simp only [pathKinds, List.mem_cons, List.not_mem_nil, or_false] at this
  rcases this with h | h | h | h | h <;> simp [h]

/-! ### The value-path look-ahead -/

/-- A run of names and dots after the first token leads the look-ahead to the `[`. -/
theorem valuePathAhead_of_lookahead {q : Tokens} {b : Token TokenKind} (rest : Tokens)
    (hq : q ≠ []) (hlook : ValuePathLookahead (lexemes q)) (hb : b.kind = .openBracket) :
    valuePathAhead (q ++ b :: rest) = true := by
  obtain ⟨t, q', rfl⟩ := List.exists_cons_of_ne_nil hq
  have hskip : (q'.find? fun u => !u.isAny lookaheadKinds) = none := by
    rw [List.find?_eq_none]
    intro u hu
    have := hlook u.lexeme (by simpa [lexemes] using List.mem_map_of_mem hu)
    simp only [Token.lexeme] at this
    rcases this with h | h <;> simp [Token.isAny, lookaheadKinds, h]
  have hbracket : b.isAny lookaheadKinds = false := by simp [Token.isAny, lookaheadKinds, hb]
  simp only [valuePathAhead, List.cons_append, List.drop_succ_cons, List.drop_zero,
    List.find?_append, hskip, Option.none_or, List.find?_cons, hbracket]
  simp [hb]

/-- After an attribute path, whitespace stops the look-ahead short of any `[`. -/
theorem valuePathAhead_of_whitespace {q : Tokens} {w : Token TokenKind} (rest : Tokens)
    (hq : q ≠ []) (hkinds : ∀ t ∈ q, t.kind ∈ pathKinds) (hw : w.kind = .whitespace) :
    valuePathAhead (q ++ w :: rest) = false := by
  obtain ⟨t, q', rfl⟩ := List.exists_cons_of_ne_nil hq
  simp only [valuePathAhead, List.cons_append, List.drop_succ_cons, List.drop_zero,
    List.find?_append]
  cases hfind : q'.find? fun u => !u.isAny lookaheadKinds with
  | none => simp [Token.isAny, lookaheadKinds, hw]
  | some u =>
    have hk := hkinds u (List.mem_cons_of_mem t (List.mem_of_find?_eq_some hfind))
    simp only [Option.some_or, Option.any_some, beq_eq_false_iff_ne, ne_eq]
    intro hopen
    simp [pathKinds, hopen] at hk

/-- The look-ahead found the `[` past an attribute path only over names and dots. -/
theorem lookahead_of_valuePathAhead {q : Tokens} {b : Token TokenKind} {rest : Tokens}
    (hq : q ≠ []) (hkinds : ∀ t ∈ q, t.kind ∈ pathKinds)
    (h : valuePathAhead (q ++ b :: rest) = true) : ValuePathLookahead (lexemes q) := by
  obtain ⟨t, q', rfl⟩ := List.exists_cons_of_ne_nil hq
  simp only [valuePathAhead, List.cons_append, List.drop_succ_cons, List.drop_zero,
    List.find?_append] at h
  cases hfind : q'.find? fun u => !u.isAny lookaheadKinds with
  | none =>
    intro x hx
    simp only [lexemes_cons, List.tail_cons] at hx
    obtain ⟨u, hu, rfl⟩ := List.mem_map.mp hx
    have := List.find?_eq_none.mp hfind u hu
    simp only [Token.lexeme]
    by_cases hn : u.kind = .name
    · exact .inl hn
    · exact .inr (by simpa [Token.isAny, lookaheadKinds, hn] using this)
  | some u =>
    have hk := hkinds u (List.mem_cons_of_mem t (List.mem_of_find?_eq_some hfind))
    have hpred := List.find?_some hfind
    rw [hfind] at h
    simp only [Option.some_or, Option.any_some, beq_iff_eq] at h
    simp [Token.isAny, lookaheadKinds, h] at hpred
    simp [pathKinds, h] at hk

/-! ### Comparisons -/

theorem comparison_eq_ok {v : Version} {ctx : Context} {ts : Tokens} {c : Comparison}
    {r : Shorter ts} (hnot : ¬ ts.head?.any (·.isName "not") = true)
    (h : comparison ctx ts = .ok (c, r)) :
    ∃ p, ts = p ++ r.1 ∧ DerivesFactor v (lexemes p) (.comparison c) := by
  simp only [comparison] at h
  obtain ⟨⟨attr, r1, h1⟩, e1, h⟩ := bind_eq_ok.mp h
  obtain ⟨q, hts, hq, -⟩ := attributePath_eq_ok e1
  obtain ⟨⟨r2, h2⟩, e2, h⟩ := bind_eq_ok.mp h
  obtain ⟨w, hr1, hw⟩ := expect_eq_ok e2
  obtain ⟨⟨op, r3, h3⟩, e3, h⟩ := bind_eq_ok.mp h
  obtain ⟨o, hr2, ho⟩ := operator_eq_ok e3
  dsimp only at hts hr1 hr2
  have hkey : (lexemes q).head? ≠ some notKeyword := by
    intro hk
    apply hnot
    rw [hts]
    exact (head_isName_not_iff r1 (fun hnil => hq.ne_nil (by simp [hnil]))).mpr hk
  split at h
  · rename_i hpresent
    cases h
    have hop : op = .present := by simpa [Operator.isPresent] using hpresent
    subst hop
    refine ⟨q ++ [w, o], by simp [hts, hr1, hr2], ?_⟩
    rw [show lexemes (q ++ [w, o]) = lexemes q ++ [(.whitespace, w.text), o.lexeme] by
      simp [lexeme_of_kind hw]]
    exact .present hq hkey ho
  · rename_i hpresent
    obtain ⟨⟨r4, h4⟩, e4, h⟩ := bind_eq_ok.mp h
    obtain ⟨w', hr3, hw'⟩ := expect_eq_ok e4
    obtain ⟨⟨val, r5, h5⟩, e5, h⟩ := bind_eq_ok.mp h
    obtain ⟨x, hr4, hx⟩ := compareValue_eq_ok e5
    dsimp only at hr3 hr4
    cases h
    have hop : op ≠ .present := by
      rintro rfl
      exact hpresent rfl
    refine ⟨q ++ [w, o, w', x], by simp [hts, hr1, hr2, hr3, hr4], ?_⟩
    rw [show lexemes (q ++ [w, o, w', x]) =
        lexemes q ++ [(.whitespace, w.text), o.lexeme, (.whitespace, w'.text), x.lexeme] by
      simp [lexeme_of_kind hw, lexeme_of_kind hw']]
    exact .compare hq hkey ho hop hx

theorem comparison_present (ctx : Context) {q : Tokens} {attr : AttributePath}
    {w o : Token TokenKind} (rest : Tokens) (hq : IsAttributePath (lexemes q) attr)
    (hw : w.kind = .whitespace) (ho : IsOperator o.lexeme .present) :
    ∃ h, comparison ctx (q ++ w :: o :: rest) = .ok (⟨attr, .present, none⟩, ⟨rest, h⟩) := by
  obtain ⟨h1, e1⟩ := attributePath_append ctx (w :: o :: rest) hq
    (by simp [hw, pathStopKinds])
  refine ⟨by simp only [List.length_append, List.length_cons]; omega, ?_⟩
  simp only [comparison, e1, ok_bind, expect_cons _ hw, operator_cons _ ho]
  rfl

theorem comparison_compare (ctx : Context) {q : Tokens} {attr : AttributePath}
    {w o w' x : Token TokenKind} {op : Operator} {val : CompareValue} (rest : Tokens)
    (hq : IsAttributePath (lexemes q) attr) (hw : w.kind = .whitespace) (ho : IsOperator o.lexeme op)
    (hop : op ≠ .present) (hw' : w'.kind = .whitespace) (hx : IsLiteral x.lexeme val) :
    ∃ h, comparison ctx (q ++ w :: o :: w' :: x :: rest) = .ok (⟨attr, op, some val⟩, ⟨rest, h⟩) := by
  obtain ⟨h1, e1⟩ := attributePath_append ctx (w :: o :: w' :: x :: rest) hq
    (by simp [hw, pathStopKinds])
  have hpresent : op.isPresent = false := by
    simpa [Operator.isPresent] using hop
  refine ⟨by simp only [List.length_append, List.length_cons]; omega, ?_⟩
  simp only [comparison, e1, ok_bind, expect_cons _ hw, operator_cons _ ho, hpresent,
    expect_cons _ hw', compareValue_cons _ hx]
  rfl

end ScimFilter.Grammar
