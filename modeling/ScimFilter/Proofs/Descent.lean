import ScimFilter.Proofs.Productions
/-!
The recursive descent reads exactly the grammar of `Proofs/Derivation`. Soundness follows the
descent's own recursion: whatever a production reads, its lexemes derive, and it stops where
the production above expects it to. Completeness follows the derivation: a production given the
lexemes of a derivation followed by tokens that cannot continue it reads the derivation's tree
and leaves those tokens. Together they make reading a whole token list and deriving its lexemes
the same relation.
-/

namespace ScimFilter.Grammar

/-! ### Soundness -/

/-- A term ends where no whitespace and `and` follow; an expression also where no `or` does. -/
theorem descent_sound (ctx : Context) :
    (∀ ts (e : Expression) (r : Shorter ts), expression ctx ts = .ok (e, r) →
      ∃ p, ts = p ++ r.1 ∧ DerivesExpression ctx.version (lexemes p) e ∧
        atLogical "or" r.1 = false ∧ atLogical "and" r.1 = false) ∧
    (∀ ts (t : Term) (r : Shorter ts), term ctx ts = .ok (t, r) →
      ∃ p, ts = p ++ r.1 ∧ DerivesTerm ctx.version (lexemes p) t ∧ atLogical "and" r.1 = false) ∧
    (∀ ts (f : Factor) (r : Shorter ts), factor ctx ts = .ok (f, r) →
      ∃ p, ts = p ++ r.1 ∧ DerivesFactor ctx.version (lexemes p) f) ∧
    (∀ ts (e : Expression) (r : Shorter ts), group ctx ts = .ok (e, r) →
      ∃ o q c, ts = o :: q ++ c :: r.1 ∧ o.kind = .openParen ∧ c.kind = .closeParen ∧
        DerivesExpression ctx.version (lexemes q) e) := by
  apply expression.mutual_induct ctx
  case case1 =>
    intro ts ihTerm ihExpr e r h
    rw [expression] at h
    obtain ⟨⟨left, r1, h1⟩, e1, h⟩ := bind_eq_ok.mp h
    obtain ⟨p1, hts, d1, hand⟩ := ihTerm left ⟨r1, h1⟩ e1
    dsimp only at hts hand h
    split at h
    · rename_i hor
      obtain ⟨⟨r2, h2⟩, e2, h⟩ := bind_eq_ok.mp h
      obtain ⟨⟨right, r3, h3⟩, e3, h⟩ := bind_eq_ok.mp h
      cases h
      obtain ⟨p2, hr2, d2, hor', hand'⟩ := ihExpr r1 h1 r2 h2 right ⟨r3, h3⟩ e3
      obtain ⟨w, n, w', hr1, hw, -, hw'⟩ := logicalOperator_eq_ok e2
      obtain ⟨w₀, n₀, rest, hr1', -, hn⟩ := atLogical_eq_true hor
      dsimp only at hr1 hr2 hor' hand' ⊢
      rw [hr1] at hr1'
      simp only [List.cons.injEq] at hr1'
      obtain ⟨rfl, rfl, -⟩ := hr1'
      refine ⟨p1 ++ w :: n :: w' :: p2, by simp [hts, hr1, hr2], ?_, hor', hand'⟩
      rw [show lexemes (p1 ++ w :: n :: w' :: p2) = lexemes p1 ++ (.whitespace, w.text) ::
          (.name, "or") :: (.whitespace, w'.text) :: lexemes p2 by
        simp [lexeme_of_kind hw, lexeme_of_kind hw', hn]]
      exact .or d1 d2
    · rename_i hor
      cases h
      exact ⟨p1, hts, .term d1, by simpa using hor, hand⟩
  case case2 =>
    intro ts ihFactor ihTerm t r h
    rw [term] at h
    obtain ⟨⟨left, r1, h1⟩, e1, h⟩ := bind_eq_ok.mp h
    obtain ⟨p1, hts, d1⟩ := ihFactor left ⟨r1, h1⟩ e1
    dsimp only at hts h
    split at h
    · rename_i hand
      obtain ⟨⟨r2, h2⟩, e2, h⟩ := bind_eq_ok.mp h
      obtain ⟨⟨right, r3, h3⟩, e3, h⟩ := bind_eq_ok.mp h
      cases h
      obtain ⟨p2, hr2, d2, hand'⟩ := ihTerm r1 h1 r2 h2 right ⟨r3, h3⟩ e3
      obtain ⟨w, n, w', hr1, hw, -, hw'⟩ := logicalOperator_eq_ok e2
      obtain ⟨w₀, n₀, rest, hr1', -, hn⟩ := atLogical_eq_true hand
      dsimp only at hr1 hr2 hand' ⊢
      rw [hr1] at hr1'
      simp only [List.cons.injEq] at hr1'
      obtain ⟨rfl, rfl, -⟩ := hr1'
      refine ⟨p1 ++ w :: n :: w' :: p2, by simp [hts, hr1, hr2], ?_, hand'⟩
      rw [show lexemes (p1 ++ w :: n :: w' :: p2) = lexemes p1 ++ (.whitespace, w.text) ::
          (.name, "and") :: (.whitespace, w'.text) :: lexemes p2 by
        simp [lexeme_of_kind hw, lexeme_of_kind hw', hn]]
      exact .and d1 d2
    · rename_i hand
      cases h
      exact ⟨p1, hts, .factor d1, by simpa using hand⟩
  case case3 =>
    intro ts hnot ihGroup f r h
    rw [factor, if_pos hnot] at h
    obtain ⟨⟨r1, h1⟩, e1, h⟩ := bind_eq_ok.mp h
    obtain ⟨⟨r2, h2⟩, e2, h⟩ := bind_eq_ok.mp h
    obtain ⟨⟨inner, r3, h3⟩, e3, h⟩ := bind_eq_ok.mp h
    cases h
    obtain ⟨n, hts, -⟩ := expect_eq_ok e1
    obtain ⟨w, hr1, hw⟩ := expect_eq_ok e2
    obtain ⟨o, q, c, hr2, ho, hc, d⟩ := ihGroup r1 h1 r2 h2 inner ⟨r3, h3⟩ e3
    dsimp only at hts hr1 hr2 ⊢
    have hn : n.lexeme = notKeyword := by
      rw [hts] at hnot
      simpa [isName_eq_true, notKeyword] using hnot
    refine ⟨n :: w :: o :: q ++ [c], by simp [hts, hr1, hr2], ?_⟩
    rw [show lexemes (n :: w :: o :: q ++ [c]) = notKeyword :: (.whitespace, w.text) ::
        (.openParen, o.text) :: lexemes q ++ [(.closeParen, c.text)] by
      simp [hn, lexeme_of_kind hw, lexeme_of_kind ho, lexeme_of_kind hc]]
    exact .not d
  case case4 =>
    intro ts hnot hparen ihGroup f r h
    rw [factor, if_neg hnot, if_pos hparen] at h
    obtain ⟨⟨inner, r1⟩, e1, h⟩ := bind_eq_ok.mp h
    cases h
    obtain ⟨o, q, c, hts, ho, hc, d⟩ := ihGroup inner r e1
    refine ⟨o :: q ++ [c], by simp [hts], ?_⟩
    rw [show lexemes (o :: q ++ [c]) = (.openParen, o.text) :: lexemes q ++ [(.closeParen, c.text)] by
      simp [lexeme_of_kind ho, lexeme_of_kind hc]]
    exact .group d
  case case5 =>
    intro ts hnot hparen hvp ihExpr f r h
    rw [factor, if_neg hnot, if_neg hparen, if_pos hvp] at h
    obtain ⟨⟨attr, r1, h1⟩, e1, h⟩ := bind_eq_ok.mp h
    obtain ⟨q, hts, hq, -⟩ := attributePath_eq_ok e1
    obtain ⟨⟨r2, h2⟩, e2, h⟩ := bind_eq_ok.mp h
    obtain ⟨b, hr1, hb⟩ := expect_eq_ok e2
    obtain ⟨⟨filter, r3, h3⟩, e3, h⟩ := bind_eq_ok.mp h
    obtain ⟨p, hr2, d, -, -⟩ := ihExpr r1 h1 r2 h2 filter ⟨r3, h3⟩ e3
    obtain ⟨⟨r4, h4⟩, e4, h⟩ := bind_eq_ok.mp h
    obtain ⟨c, hr3, hc⟩ := expect_eq_ok e4
    dsimp only at hts hr1 hr2 hr3 h ⊢
    split at h
    · cases h
    rename_i hnest
    cases h
    have hqne : q ≠ [] := fun hnil => hq.ne_nil (by simp [hnil])
    have hkinds : ∀ t ∈ q, t.kind ∈ pathKinds := by simpa [lexemes, Token.lexeme] using hq.kinds
    obtain ⟨hahead, hv⟩ := Bool.and_eq_true_iff.mp hvp
    have hlook : ValuePathLookahead (lexemes q) := by
      rw [hts, hr1] at hahead
      exact lookahead_of_valuePathAhead hqne hkinds hahead
    have hkey : (lexemes q).head? ≠ some notKeyword := by
      intro hk
      apply hnot
      rw [hts]
      exact (head_isName_not_iff r1 hqne).mpr hk
    refine ⟨q ++ b :: p ++ [c], by simp [hts, hr1, hr2, hr3], ?_⟩
    rw [show lexemes (q ++ b :: p ++ [c]) = lexemes q ++ (.openBracket, b.text) :: lexemes p ++
        [(.closeBracket, c.text)] by simp [lexeme_of_kind hb, lexeme_of_kind hc]]
    exact .valuePath hv hq hkey hlook d (by simpa using hnest)
  case case6 =>
    intro ts hnot hparen hvp f r h
    rw [factor, if_neg hnot, if_neg hparen, if_neg hvp] at h
    obtain ⟨⟨c, r1⟩, e1, h⟩ := bind_eq_ok.mp h
    cases h
    exact comparison_eq_ok hnot e1
  case case7 =>
    intro ts ihExpr e r h
    rw [group] at h
    obtain ⟨⟨r1, h1⟩, e1, h⟩ := bind_eq_ok.mp h
    obtain ⟨⟨inner, r2, h2⟩, e2, h⟩ := bind_eq_ok.mp h
    obtain ⟨⟨r3, h3⟩, e3, h⟩ := bind_eq_ok.mp h
    cases h
    obtain ⟨o, hts, ho⟩ := expect_eq_ok e1
    obtain ⟨q, hr1, d, -, -⟩ := ihExpr r1 h1 e ⟨r2, h2⟩ e2
    obtain ⟨c, hr2, hc⟩ := expect_eq_ok e3
    dsimp only at hts hr1 hr2
    exact ⟨o, q, c, by simp [hts, hr1, hr2], ho, hc, d⟩

/-! ### Completeness -/

theorem group_cons {ctx : Context} {o c : Token TokenKind} {q rest : Tokens} {e : Expression}
    (ho : o.kind = .openParen) (hc : c.kind = .closeParen)
    (he : ∃ h, expression ctx (q ++ c :: rest) = .ok (e, ⟨c :: rest, h⟩)) :
    ∃ h, group ctx (o :: (q ++ c :: rest)) = .ok (e, ⟨rest, h⟩) := by
  obtain ⟨h, he⟩ := he
  refine ⟨by simp only [List.length_append, List.length_cons]; omega, ?_⟩
  rw [group, expect_cons _ ho, ok_bind]
  simp only [he, ok_bind, expect_cons _ hc]
  rfl

/-- A value path is read up to its closing bracket; its filter is refused when a value path
occurs in it. -/
theorem factor_valuePath {ctx : Context} {q pf rest : Tokens} {b c : Token TokenKind}
    {attr : AttributePath} {e : Expression} (hv : ctx.version.supportsValueFilters = true)
    (hq : IsAttributePath (lexemes q) attr) (hkey : (lexemes q).head? ≠ some notKeyword)
    (hlook : ValuePathLookahead (lexemes q)) (hb : b.kind = .openBracket)
    (hc : c.kind = .closeBracket)
    (he : ∃ h, expression ctx (pf ++ c :: rest) = .ok (e, ⟨c :: rest, h⟩)) :
    ∃ h, factor ctx (q ++ b :: (pf ++ c :: rest)) =
      if e.containsValuePath then .error .valueFilterNesting
      else .ok (.valuePath attr e, ⟨rest, h⟩) := by
  obtain ⟨h2, e2⟩ := he
  have hqne : q ≠ [] := fun hnil => hq.ne_nil (by simp [hnil])
  have hkinds : ∀ t ∈ q, t.kind ∈ pathKinds := by simpa [lexemes, Token.lexeme] using hq.kinds
  have hnot : ¬ (q ++ b :: (pf ++ c :: rest)).head?.any (·.isName "not") = true := fun h =>
    hkey ((head_isName_not_iff _ hqne).mp h)
  have hvp : (valuePathAhead (q ++ b :: (pf ++ c :: rest)) &&
      ctx.version.supportsValueFilters) = true := by
    rw [valuePathAhead_of_lookahead _ hqne hlook hb, hv]
    rfl
  obtain ⟨h1, e1⟩ := attributePath_append ctx (b :: (pf ++ c :: rest)) hq
    (by simp [hb, pathStopKinds])
  refine ⟨by simp only [List.length_append, List.length_cons]; omega, ?_⟩
  rw [factor, if_neg hnot, if_neg (head_not_openParen _ hqne hkinds ▸ Bool.false_ne_true),
    if_pos hvp, e1, ok_bind]
  dsimp only
  rw [expect_cons _ hb, ok_bind]
  dsimp only
  rw [e2, ok_bind]
  dsimp only
  rw [expect_cons _ hc, ok_bind]
  dsimp only
  split <;> rfl

mutual

theorem expression_complete {ctx : Context} {xs : List Lexeme} {e : Expression}
    (d : DerivesExpression ctx.version xs e) {p : Tokens} (hp : lexemes p = xs) (rest : Tokens)
    (hor : atLogical "or" rest = false) (hand : atLogical "and" rest = false) :
    ∃ h, expression ctx (p ++ rest) = .ok (e, ⟨rest, h⟩) :=
  match d, hp with
  | .term d, hp => by
    obtain ⟨h, ht⟩ := term_complete d hp rest hand
    refine ⟨h, ?_⟩
    rw [expression, ht, ok_bind]
    simp only [hor]
    rfl
  | .or d1 d2, hp => by
    obtain ⟨p1, w, r, rfl, hp1, hw, hr⟩ := lexemes_eq_append_cons hp
    obtain ⟨n, r', rfl, hn, hr'⟩ := lexemes_eq_cons hr
    obtain ⟨w', p2, rfl, hw', hp2⟩ := lexemes_eq_cons hr'
    have hand1 : atLogical "and" (w :: n :: w' :: (p2 ++ rest)) = false := by
      simp [atLogical, Token.isName, text_of_lexeme hn]
    have hor1 : atLogical "or" (w :: n :: w' :: (p2 ++ rest)) = true := by
      simp [atLogical, Token.isName, text_of_lexeme hn, kind_of_lexeme hn, kind_of_lexeme hw]
    obtain ⟨h1, e1⟩ := term_complete d1 hp1 _ hand1
    obtain ⟨h2, e2⟩ := expression_complete d2 hp2 rest hor hand
    rw [List.append_assoc, List.cons_append, List.cons_append, List.cons_append]
    refine ⟨by simp only [List.length_append, List.length_cons]; omega, ?_⟩
    obtain ⟨h3, e3⟩ := logicalOperator_cons ctx (p2 ++ rest) (kind_of_lexeme hw)
      (kind_of_lexeme hn) (kind_of_lexeme hw')
    rw [expression, e1, ok_bind]
    dsimp only
    rw [if_pos hor1, e3, ok_bind]
    dsimp only
    rw [e2, ok_bind]
    rfl
termination_by structural d

theorem term_complete {ctx : Context} {xs : List Lexeme} {t : Term}
    (d : DerivesTerm ctx.version xs t) {p : Tokens} (hp : lexemes p = xs) (rest : Tokens)
    (hand : atLogical "and" rest = false) :
    ∃ h, term ctx (p ++ rest) = .ok (t, ⟨rest, h⟩) :=
  match d, hp with
  | .factor d, hp => by
    obtain ⟨h, hf⟩ := factor_complete d hp rest
    refine ⟨h, ?_⟩
    rw [term, hf, ok_bind]
    simp only [hand]
    rfl
  | .and d1 d2, hp => by
    obtain ⟨p1, w, r, rfl, hp1, hw, hr⟩ := lexemes_eq_append_cons hp
    obtain ⟨n, r', rfl, hn, hr'⟩ := lexemes_eq_cons hr
    obtain ⟨w', p2, rfl, hw', hp2⟩ := lexemes_eq_cons hr'
    have hand1 : atLogical "and" (w :: n :: w' :: (p2 ++ rest)) = true := by
      simp [atLogical, Token.isName, text_of_lexeme hn, kind_of_lexeme hn, kind_of_lexeme hw]
    obtain ⟨h1, e1⟩ := factor_complete d1 hp1 (w :: n :: w' :: (p2 ++ rest))
    obtain ⟨h2, e2⟩ := term_complete d2 hp2 rest hand
    obtain ⟨h3, e3⟩ := logicalOperator_cons ctx (p2 ++ rest) (kind_of_lexeme hw)
      (kind_of_lexeme hn) (kind_of_lexeme hw')
    rw [List.append_assoc, List.cons_append, List.cons_append, List.cons_append]
    refine ⟨by simp only [List.length_append, List.length_cons]; omega, ?_⟩
    rw [term, e1, ok_bind]
    dsimp only
    rw [if_pos hand1, e3, ok_bind]
    dsimp only
    rw [e2, ok_bind]
    rfl
termination_by structural d

theorem factor_complete {ctx : Context} {xs : List Lexeme} {f : Factor}
    (d : DerivesFactor ctx.version xs f) {p : Tokens} (hp : lexemes p = xs) (rest : Tokens) :
    ∃ h, factor ctx (p ++ rest) = .ok (f, ⟨rest, h⟩) :=
  match d, hp with
  | .not d, hp => by
    obtain ⟨n, r1, rfl, hn, hr1⟩ := lexemes_eq_cons hp
    obtain ⟨w, r2, rfl, hw, hr2⟩ := lexemes_eq_cons hr1
    obtain ⟨o, r3, rfl, ho, hr3⟩ := lexemes_eq_cons hr2
    obtain ⟨q, c, r4, rfl, hq, hc, hr4⟩ := lexemes_eq_append_cons hr3
    obtain rfl := lexemes_eq_nil hr4
    have he := expression_complete d hq (c :: rest)
      (atLogical_of_not_whitespace rest (by simp [kind_of_lexeme hc]))
      (atLogical_of_not_whitespace rest (by simp [kind_of_lexeme hc]))
    obtain ⟨h1, e1⟩ := group_cons (kind_of_lexeme ho) (kind_of_lexeme hc) he
    have hnot : (n :: w :: o :: (q ++ c :: rest)).head?.any (·.isName "not") = true := by
      simp [isName_eq_true, hn, notKeyword]
    rw [show n :: w :: o :: (q ++ [c]) ++ rest = n :: w :: o :: (q ++ c :: rest) by simp]
    refine ⟨by simp only [List.length_append, List.length_cons]; omega, ?_⟩
    rw [factor, if_pos hnot]
    simp only [expect_cons _ (kind_of_lexeme hn), expect_cons _ (kind_of_lexeme hw), ok_bind, e1]
    rfl
  | .group d, hp => by
    obtain ⟨o, r1, rfl, ho, hr1⟩ := lexemes_eq_cons hp
    obtain ⟨q, c, r2, rfl, hq, hc, hr2⟩ := lexemes_eq_append_cons hr1
    obtain rfl := lexemes_eq_nil hr2
    have he := expression_complete d hq (c :: rest)
      (atLogical_of_not_whitespace rest (by simp [kind_of_lexeme hc]))
      (atLogical_of_not_whitespace rest (by simp [kind_of_lexeme hc]))
    obtain ⟨h1, e1⟩ := group_cons (kind_of_lexeme ho) (kind_of_lexeme hc) he
    have hnot : ¬ (o :: (q ++ c :: rest)).head?.any (·.isName "not") = true := by
      simp [Token.isName, kind_of_lexeme ho]
    have hparen : (o :: (q ++ c :: rest)).head?.any (·.kind == .openParen) = true := by
      simp [kind_of_lexeme ho]
    rw [show o :: (q ++ [c]) ++ rest = o :: (q ++ c :: rest) by simp]
    refine ⟨h1, ?_⟩
    rw [factor, if_neg hnot, if_pos hparen, e1, ok_bind]
    rfl
  | .valuePath hv hq hkey hlook d hnest, hp => by
    obtain ⟨p0, c, r, rfl, hp0, hc, hr⟩ := lexemes_eq_append_cons hp
    obtain rfl := lexemes_eq_nil hr
    obtain ⟨q, b, p', rfl, rfl, hb, hp'⟩ := lexemes_eq_append_cons hp0
    obtain ⟨h, e1⟩ := factor_valuePath hv hq hkey hlook (kind_of_lexeme hb) (kind_of_lexeme hc)
      (expression_complete d hp' (c :: rest)
        (atLogical_of_not_whitespace rest (by simp [kind_of_lexeme hc]))
        (atLogical_of_not_whitespace rest (by simp [kind_of_lexeme hc])))
    rw [show q ++ b :: p' ++ [c] ++ rest = q ++ b :: (p' ++ c :: rest) by simp, e1,
      if_neg (by simp [hnest])]
    exact ⟨h, rfl⟩
  | .present hq hkey ho, hp => by
    obtain ⟨q, w, r1, rfl, rfl, hw, hr1⟩ := lexemes_eq_append_cons hp
    obtain ⟨o, r2, rfl, rfl, hr2⟩ := lexemes_eq_cons hr1
    obtain rfl := lexemes_eq_nil hr2
    have hqne : q ≠ [] := fun hnil => hq.ne_nil (by simp [hnil])
    have hkinds : ∀ t ∈ q, t.kind ∈ pathKinds := by simpa [lexemes, Token.lexeme] using hq.kinds
    have hnot : ¬ (q ++ w :: o :: rest).head?.any (·.isName "not") = true := fun h =>
      hkey ((head_isName_not_iff _ hqne).mp h)
    have hvp : ¬ (valuePathAhead (q ++ w :: o :: rest) && ctx.version.supportsValueFilters) = true := by
      rw [valuePathAhead_of_whitespace _ hqne hkinds (kind_of_lexeme hw)]
      simp
    obtain ⟨h1, e1⟩ := comparison_present ctx rest hq (kind_of_lexeme hw) ho
    rw [show q ++ [w, o] ++ rest = q ++ w :: o :: rest by simp]
    refine ⟨h1, ?_⟩
    rw [factor, if_neg hnot, if_neg (head_not_openParen _ hqne hkinds ▸ Bool.false_ne_true), if_neg hvp,
      e1, ok_bind]
    rfl
  | .compare hq hkey ho hop hx, hp => by
    obtain ⟨q, w, r1, rfl, rfl, hw, hr1⟩ := lexemes_eq_append_cons hp
    obtain ⟨o, r2, rfl, rfl, hr2⟩ := lexemes_eq_cons hr1
    obtain ⟨w', r3, rfl, hw', hr3⟩ := lexemes_eq_cons hr2
    obtain ⟨x, r4, rfl, rfl, hr4⟩ := lexemes_eq_cons hr3
    obtain rfl := lexemes_eq_nil hr4
    have hqne : q ≠ [] := fun hnil => hq.ne_nil (by simp [hnil])
    have hkinds : ∀ t ∈ q, t.kind ∈ pathKinds := by simpa [lexemes, Token.lexeme] using hq.kinds
    have hnot : ¬ (q ++ w :: o :: w' :: x :: rest).head?.any (·.isName "not") = true := fun h =>
      hkey ((head_isName_not_iff _ hqne).mp h)
    have hvp : ¬ (valuePathAhead (q ++ w :: o :: w' :: x :: rest) &&
        ctx.version.supportsValueFilters) = true := by
      rw [valuePathAhead_of_whitespace _ hqne hkinds (kind_of_lexeme hw)]
      simp
    obtain ⟨h1, e1⟩ := comparison_compare ctx rest hq (kind_of_lexeme hw) ho hop
      (kind_of_lexeme hw') hx
    rw [show q ++ [w, o, w', x] ++ rest = q ++ w :: o :: w' :: x :: rest by simp]
    refine ⟨h1, ?_⟩
    rw [factor, if_neg hnot, if_neg (head_not_openParen _ hqne hkinds ▸ Bool.false_ne_true), if_neg hvp,
      e1, ok_bind]
    rfl
termination_by structural d

end

/-! ### Whole token lists -/

theorem expectEnd_eq_ok {ctx : Context} {ts : Tokens} {u : Unit} (h : expectEnd ctx ts = .ok u) :
    ts = [] := by
  simp only [expectEnd] at h
  split at h
  · exact List.isEmpty_iff.mp ‹_›
  · cases h

/-- The descent reads a whole token list as a filter exactly when its lexemes derive the
filter. -/
theorem filter_eq_ok_iff {ctx : Context} {ts : Tokens} {e : Expression} :
    filter ctx ts = .ok e ↔ DerivesExpression ctx.version (lexemes ts) e := by
  constructor
  · intro h
    simp only [filter] at h
    obtain ⟨⟨e', r, hr⟩, e1, h⟩ := bind_eq_ok.mp h
    obtain ⟨u, e2, h⟩ := bind_eq_ok.mp h
    cases h
    obtain ⟨p, hts, d, -, -⟩ := (descent_sound ctx).1 ts _ ⟨r, hr⟩ e1
    have hr : r = [] := expectEnd_eq_ok e2
    subst hr
    simpa [hts] using d
  · intro d
    have he := expression_complete d (rfl : lexemes ts = _) [] rfl rfl
    rw [List.append_nil] at he
    obtain ⟨h, he⟩ := he
    simp only [filter, he, ok_bind]
    rfl

/-- Tokens with the lexemes of a value path, and nothing after it, are read as the value path,
unless a value path occurs in its filter. -/
theorem filter_valuePath {ctx : Context} {ts : Tokens} {ps xs : List Lexeme} {attr : AttributePath}
    {e : Expression} {b c : String} (hv : ctx.version.supportsValueFilters = true)
    (hps : IsAttributePath ps attr) (hkey : ps.head? ≠ some notKeyword)
    (hlook : ValuePathLookahead ps) (d : DerivesExpression ctx.version xs e)
    (hts : lexemes ts = ps ++ (.openBracket, b) :: xs ++ [(.closeBracket, c)]) :
    filter ctx ts = if e.containsValuePath then .error .valueFilterNesting
      else .ok (.term (.factor (.valuePath attr e))) := by
  obtain ⟨p0, tc, r, rfl, hp0, hc, hr⟩ := lexemes_eq_append_cons hts
  obtain rfl := lexemes_eq_nil hr
  obtain ⟨q, tb, pf, rfl, rfl, hb, hpf⟩ := lexemes_eq_append_cons hp0
  obtain ⟨h, hf⟩ := factor_valuePath hv hps hkey hlook (kind_of_lexeme hb) (kind_of_lexeme hc)
    (expression_complete d hpf [tc] rfl rfl)
  rw [show q ++ tb :: pf ++ [tc] = q ++ tb :: (pf ++ [tc]) by simp, filter, expression, term, hf]
  split <;> rfl

theorem wholePath_eq_ok {ctx : Context} {ts : Tokens} {p : Path} (h : wholePath ctx ts = .ok p) :
    DerivesPath ctx.version (lexemes ts) p := by
  simp only [wholePath] at h
  obtain ⟨⟨p', r⟩, e1, h⟩ := bind_eq_ok.mp h
  obtain ⟨u, e2, h⟩ := bind_eq_ok.mp h
  cases h
  have hr : r = [] := expectEnd_eq_ok e2
  subst hr
  simp only [path] at e1
  obtain ⟨⟨attr, r1, h1⟩, e3, e1⟩ := bind_eq_ok.mp e1
  obtain ⟨q, hts, hq, -⟩ := attributePath_eq_ok e3
  dsimp only at hts e1
  subst hts
  cases r1 with
  | nil =>
    cases e1
    simpa using DerivesPath.bare hq
  | cons b r1 =>
    dsimp only at e1
    split at e1
    · cases e1
    rename_i hb
    obtain ⟨⟨r2, h2⟩, e4, e1⟩ := bind_eq_ok.mp e1
    obtain ⟨b', hr1, -⟩ := expect_eq_ok e4
    dsimp only at hr1
    obtain ⟨rfl, rfl⟩ := List.cons.inj hr1
    obtain ⟨⟨filter, r3, h3⟩, e5, e1⟩ := bind_eq_ok.mp e1
    obtain ⟨pf, hr2, d, -, -⟩ := (descent_sound ctx).1 _ _ ⟨r3, h3⟩ e5
    obtain ⟨⟨r4, h4⟩, e6, e1⟩ := bind_eq_ok.mp e1
    obtain ⟨c, hr3, hc⟩ := expect_eq_ok e6
    dsimp only at hr2 hr3 e1
    subst hr2 hr3
    split at e1
    · cases e1
    rename_i hnest
    have hb' : b.kind = .openBracket := by simpa using hb
    have hnest' : filter.containsValuePath = false := by simpa using hnest
    have hlex : ∀ rest : Tokens, lexemes (q ++ b :: (pf ++ c :: rest)) =
        lexemes q ++ (.openBracket, b.text) :: lexemes pf ++ [(.closeBracket, c.text)] ++
          lexemes rest := by
      intro rest
      simp [lexeme_of_kind hb', lexeme_of_kind hc]
    cases r4 with
    | nil =>
      cases e1
      simpa [hlex [], -lexemes_append] using DerivesPath.filtered hq d hnest'
    | cons t r5 =>
      dsimp only at e1
      split at e1
      · rename_i hdot
        cases r5 with
        | nil =>
          cases e1
          have ht : t.kind = .dot := by simpa using hdot
          have := DerivesPath.dotted (b := b.text) (c := c.text) (d := t.text) hq d hnest'
          simpa [lexeme_of_kind hb', lexeme_of_kind hc, lexeme_of_kind ht] using this
        | cons n r6 =>
          dsimp only at e1
          split at e1
          · rename_i hname
            cases e1
            have ht : t.kind = .dot := by simpa using hdot
            have hn : n.kind = .name := by simpa using hname
            have := DerivesPath.subAttribute (b := b.text) (c := c.text) (d := t.text) (n := n.text) hq d
              hnest'
            simpa [lexeme_of_kind hb', lexeme_of_kind hc, lexeme_of_kind ht, lexeme_of_kind hn]
              using this
          · cases e1
      · cases e1

/-- After its value filter, a path ends, takes a lone dot, or a dot and a sub-attribute; the
filter is refused when a value path occurs in it. -/
theorem path_filtered (ctx : Context) {q pf tail : Tokens} {b c : Token TokenKind}
    {attr : AttributePath} {e : Expression} {sub : Option String}
    (hq : IsAttributePath (lexemes q) attr) (hb : b.kind = .openBracket)
    (d : DerivesExpression ctx.version (lexemes pf) e) (hc : c.kind = .closeBracket)
    (htail : tail = [] ∧ sub = none ∨ (∃ t, tail = [t] ∧ t.kind = .dot) ∧ sub = none ∨
      ∃ t n, tail = [t, n] ∧ t.kind = .dot ∧ n.kind = .name ∧ sub = some n.text) :
    path ctx (q ++ b :: (pf ++ c :: tail)) =
      if e.containsValuePath then .error .valueFilterNesting else .ok (⟨attr, some e, sub⟩, []) := by
  obtain ⟨h1, e1⟩ := attributePath_append ctx (b :: (pf ++ c :: tail)) hq
    (by simp [hb, pathStopKinds])
  obtain ⟨h2, e2⟩ := expression_complete d rfl (c :: tail)
    (atLogical_of_not_whitespace tail (by simp [hc]))
    (atLogical_of_not_whitespace tail (by simp [hc]))
  rw [path, e1, ok_bind]
  dsimp only
  rw [if_neg (by simp [hb]), expect_cons _ hb, ok_bind]
  dsimp only
  rw [e2, ok_bind]
  dsimp only
  rw [expect_cons _ hc, ok_bind]
  dsimp only
  split
  · rfl
  rcases htail with ⟨rfl, rfl⟩ | ⟨⟨t, rfl, ht⟩, rfl⟩ | ⟨t, n, rfl, ht, hn, rfl⟩
  · rfl
  · simp [ht]
    rfl
  · simp [ht, hn]
    rfl

/-- Tokens with the lexemes of a path with a value filter are read as the path, unless a value
path occurs in its filter. -/
theorem wholePath_filtered {ctx : Context} {ts : Tokens} {ps xs tail : List Lexeme}
    {attr : AttributePath} {e : Expression} {b c : String} {sub : Option String}
    (hps : IsAttributePath ps attr) (d : DerivesExpression ctx.version xs e)
    (hts : lexemes ts = ps ++ (.openBracket, b) :: xs ++ (.closeBracket, c) :: tail)
    (htail : tail = [] ∧ sub = none ∨ (∃ t, tail = [(.dot, t)]) ∧ sub = none ∨
      ∃ t n, tail = [(.dot, t), (.name, n)] ∧ sub = some n) :
    wholePath ctx ts = if e.containsValuePath then .error .valueFilterNesting
      else .ok ⟨attr, some e, sub⟩ := by
  obtain ⟨p0, tc, r, rfl, hp0, hc, hr⟩ := lexemes_eq_append_cons hts
  obtain ⟨q, tb, pf, rfl, rfl, hb, rfl⟩ := lexemes_eq_append_cons hp0
  have htail' : r = [] ∧ sub = none ∨ (∃ t, r = [t] ∧ t.kind = .dot) ∧ sub = none ∨
      ∃ t n, r = [t, n] ∧ t.kind = .dot ∧ n.kind = .name ∧ sub = some n.text := by
    rcases htail with ⟨rfl, rfl⟩ | ⟨⟨t, rfl⟩, rfl⟩ | ⟨t, n, rfl, rfl⟩
    · exact .inl ⟨lexemes_eq_nil hr, rfl⟩
    · obtain ⟨u, r', rfl, hu, hr'⟩ := lexemes_eq_cons hr
      obtain rfl := lexemes_eq_nil hr'
      exact .inr (.inl ⟨⟨u, rfl, kind_of_lexeme hu⟩, rfl⟩)
    · obtain ⟨u, r', rfl, hu, hr'⟩ := lexemes_eq_cons hr
      obtain ⟨m, r'', rfl, hm, hr''⟩ := lexemes_eq_cons hr'
      obtain rfl := lexemes_eq_nil hr''
      exact .inr (.inr ⟨u, m, rfl, kind_of_lexeme hu, kind_of_lexeme hm, by rw [text_of_lexeme hm]⟩)
  rw [show q ++ tb :: pf ++ tc :: r = q ++ tb :: (pf ++ tc :: r) by simp, wholePath,
    path_filtered ctx hps (kind_of_lexeme hb) d (kind_of_lexeme hc) htail']
  split <;> rfl

theorem wholePath_of_derives {ctx : Context} {xs : List Lexeme} {p : Path}
    (d : DerivesPath ctx.version xs p) {ts : Tokens} (hts : lexemes ts = xs) :
    wholePath ctx ts = .ok p := by
  cases d with
  | bare hq =>
    subst hts
    have e1 := attributePath_append ctx [] hq (by simp)
    rw [List.append_nil] at e1
    obtain ⟨h1, e1⟩ := e1
    simp only [wholePath, path, e1, ok_bind]
    rfl
  | filtered hq d hnest =>
    rw [wholePath_filtered hq d hts (.inl ⟨rfl, rfl⟩), if_neg (by simp [hnest])]
  | dotted hq d hnest =>
    rw [wholePath_filtered hq d hts (.inr (.inl ⟨⟨_, rfl⟩, rfl⟩)), if_neg (by simp [hnest])]
  | subAttribute hq d hnest =>
    rw [wholePath_filtered hq d hts (.inr (.inr ⟨_, _, rfl, rfl⟩)), if_neg (by simp [hnest])]

/-- The descent reads a whole token list as a path exactly when its lexemes derive the path. -/
theorem wholePath_eq_ok_iff {ctx : Context} {ts : Tokens} {p : Path} :
    wholePath ctx ts = .ok p ↔ DerivesPath ctx.version (lexemes ts) p :=
  ⟨wholePath_eq_ok, fun d => wholePath_of_derives d rfl⟩

/-! ### The grammar is unambiguous -/

theorem exists_lexemes_eq (xs : List Lexeme) : ∃ ts, lexemes ts = xs :=
  ⟨xs.map fun x => ⟨x.1, x.2, 0, 0⟩, by simp [lexemes, Token.lexeme, Function.comp_def]⟩

/-- A list of lexemes derives at most one expression: the descent reads it back. -/
theorem DerivesExpression.unique {v : Version} {xs : List Lexeme} {e e' : Expression}
    (d : DerivesExpression v xs e) (d' : DerivesExpression v xs e') : e = e' := by
  obtain ⟨ts, rfl⟩ := exists_lexemes_eq xs
  have h : filter ⟨v, 0⟩ ts = .ok e := filter_eq_ok_iff.mpr d
  have h' : filter ⟨v, 0⟩ ts = .ok e' := filter_eq_ok_iff.mpr d'
  rw [h] at h'
  cases h'
  rfl

theorem DerivesPath.unique {v : Version} {xs : List Lexeme} {p p' : Path}
    (d : DerivesPath v xs p) (d' : DerivesPath v xs p') : p = p' := by
  obtain ⟨ts, rfl⟩ := exists_lexemes_eq xs
  have h : wholePath ⟨v, 0⟩ ts = .ok p := wholePath_eq_ok_iff.mpr d
  have h' : wholePath ⟨v, 0⟩ ts = .ok p' := wholePath_eq_ok_iff.mpr d'
  rw [h] at h'
  cases h'
  rfl

theorem DerivesRoot.unique {m : Mode} {v : Version} {xs : List Lexeme} {root root' : Root}
    (d : DerivesRoot m v xs root) (d' : DerivesRoot m v xs root') : root = root' := by
  cases root <;> cases root' <;> simp only [DerivesRoot] at d d'
  · rw [d.2.unique d'.2]
  · exact absurd (d.1.symm.trans d'.1) (by decide)
  · exact absurd (d.1.symm.trans d'.1) (by decide)
  · rw [d.2.unique d'.2]

end ScimFilter.Grammar
