import ScimFilter.Proofs.CallGraph
import ScimFilter.Proofs.Versions
/-!
The shared-cursor descent reads what the token-list descent reads. A cursor at peek offset 1
whose tokens from the position on are `ts` stands for the list `ts` (`Stands`). Started at such
a cursor, each production of the shared-cursor descent agrees with the list production on `ts`:
both fail with the same error, or both read the same tree and the cursor stands for the rest
(`descent_agrees`).

The two descents differ in form only at an empty attribute path: the shared cursor reports it at
the token where its loop stopped, the list descent at the token where it started. They differ
in fact only when a path token has an empty text, and no scanned token has one, so on the tokens
of a scan both read the same filters and paths (`read_shared_cursor`).
-/

namespace ScimFilter.CursorGrammar

open Grammar (Context Tokens Shorter bind_eq_ok)

/-! ### Agreeing results -/

/-- Two results agree: both fail with the same error, or both succeed with related values. -/
def Agree {ε α β : Type} (R : α → β → Prop) : Except ε α → Except ε β → Prop
  | .ok a, .ok b => R a b
  | .error e, .error e' => e = e'
  | _, _ => False

theorem Agree.cases {ε α β : Type} {R : α → β → Prop} {x : Except ε α} {y : Except ε β}
    (h : Agree R x y) :
    (∃ e, x = .error e ∧ y = .error e) ∨ ∃ a b, x = .ok a ∧ y = .ok b ∧ R a b := by
  cases x with
  | error e =>
    cases y with
    | error e' => exact .inl ⟨e, rfl, congrArg Except.error h.symm⟩
    | ok b => exact h.elim
  | ok a =>
    cases y with
    | error e' => exact h.elim
    | ok b => exact .inr ⟨a, b, rfl, rfl, h⟩

theorem Agree.bind {ε α β γ δ : Type} {R : α → β → Prop} {S : γ → δ → Prop}
    {x : Except ε α} {y : Except ε β} {f : α → Except ε γ} {g : β → Except ε δ}
    (hxy : Agree R x y) (hfg : ∀ a b, R a b → Agree S (f a) (g b)) :
    Agree S (x >>= f) (y >>= g) := by
  obtain ⟨e, rfl, rfl⟩ | ⟨a, b, rfl, rfl, hab⟩ := hxy.cases
  · exact rfl
  · exact hfg a b hab

theorem Agree.refl {ε α : Type} (x : Except ε α) : Agree Eq x x := by
  cases x <;> rfl

theorem Agree.eq {ε α : Type} {x y : Except ε α} (h : Agree Eq x y) : x = y := by
  obtain ⟨e, rfl, rfl⟩ | ⟨a, b, rfl, rfl, rfl⟩ := h.cases <;> rfl

/-- The cursor at peek offset 1 over `tokens` that has the tokens `ts` left. -/
def cursorAt (tokens : Array (Token TokenKind)) (ts : Tokens) : TokenCursor :=
  ⟨tokens, tokens.size - ts.length, 1⟩

/-- The cursor `c` stands for the rest `ts` of the tokens. -/
def Stands (tokens : Array (Token TokenKind)) (c : TokenCursor) (ts : Tokens) : Prop :=
  c = cursorAt tokens ts ∧ ts <:+ tokens.toList

/-- A cursor step and a list step agree on where they leave the tokens. -/
def SameRest {P : TokenCursor → Prop} {Q : Tokens → Prop} (tokens : Array (Token TokenKind))
    (d : Subtype P) (r : Subtype Q) : Prop :=
  Stands tokens d.1 r.1

/-- A cursor production and a list production agree on what they read and where they stop. -/
def Same {α : Type} {P : TokenCursor → Prop} {Q : Tokens → Prop}
    (tokens : Array (Token TokenKind)) (p : α × Subtype P) (q : α × Subtype Q) : Prop :=
  p.1 = q.1 ∧ Stands tokens p.2.1 q.2.1

variable {ctx : Context} {tokens : Array (Token TokenKind)}

/-! ### A cursor standing for a rest -/

theorem drop_cursorAt {ts : Tokens} (h : ts <:+ tokens.toList) :
    tokens.toList.drop (cursorAt tokens ts).position = ts := by
  simp only [cursorAt, ← Array.length_toList]
  exact (List.suffix_iff_eq_drop.mp h).symm

theorem token_eq_head (c : TokenCursor) : c.token = (c.tokens.toList.drop c.position).head? := by
  simp [Cursor.token, List.head?_drop]

theorem token_cursorAt {ts : Tokens} (h : ts <:+ tokens.toList) :
    (cursorAt tokens ts).token = ts.head? := by
  rw [token_eq_head]
  show (tokens.toList.drop (cursorAt tokens ts).position).head? = _
  rw [drop_cursorAt h]

theorem Stands.token {c : TokenCursor} {ts : Tokens} (hc : Stands tokens c ts) :
    c.token = ts.head? := by
  rw [hc.1]
  exact token_cursorAt hc.2

theorem lookAhead_cursorAt {ts : Tokens} (h : ts <:+ tokens.toList) :
    (cursorAt tokens ts).lookAhead = (ts.drop 1).head? := by
  show tokens[(cursorAt tokens ts).position + 1]? = _
  conv_rhs => rw [← drop_cursorAt h]
  simp [List.head?_drop]

theorem isAtEnd_cursorAt {ts : Tokens} (h : ts <:+ tokens.toList) :
    (cursorAt tokens ts).isAtEnd = ts.isEmpty := by
  cases ts with
  | nil => simp [Cursor.isAtEnd, cursorAt]
  | cons t rest =>
    have hle := h.length_le
    simp only [Array.length_toList, List.length_cons] at hle
    simp only [Cursor.isAtEnd, cursorAt, List.length_cons, List.isEmpty_cons]
    exact decide_eq_false (by omega)

theorem moveNext_cursorAt {t : Token TokenKind} {rest : Tokens}
    (h : t :: rest <:+ tokens.toList) :
    (cursorAt tokens (t :: rest)).moveNext.1 = cursorAt tokens rest := by
  have hle := h.length_le
  simp only [Array.length_toList, List.length_cons] at hle
  have hlt : tokens.size - (rest.length + 1) < tokens.size := by omega
  simp only [Cursor.moveNext, cursorAt, List.length_cons, Cursor.mk.injEq, true_and, and_true,
    hlt, if_true]
  omega

theorem syntaxError_cursorAt {ts : Tokens} (h : ts <:+ tokens.toList) (expected : Expected) :
    syntaxError ctx (cursorAt tokens ts) expected = ctx.fail ts expected := by
  unfold syntaxError
  rw [token_cursorAt h]
  cases ts <;> rfl

theorem Stands.isAtEnd {c : TokenCursor} {ts : Tokens} (hc : Stands tokens c ts) :
    c.isAtEnd = ts.isEmpty := by
  rw [hc.1]
  exact isAtEnd_cursorAt hc.2

theorem Stands.syntaxError {c : TokenCursor} {ts : Tokens} (hc : Stands tokens c ts)
    (expected : Expected) : syntaxError ctx c expected = ctx.fail ts expected := by
  rw [hc.1]
  exact syntaxError_cursorAt hc.2 expected

theorem Stands.new (tokens : Array (Token TokenKind)) :
    Stands tokens (Cursor.new tokens) tokens.toList := by
  refine ⟨?_, List.suffix_refl _⟩
  simp [Cursor.new, cursorAt]

theorem Stands.tail {c : TokenCursor} {t : Token TokenKind} {rest : Tokens}
    (hc : Stands tokens c (t :: rest)) : Stands tokens c.moveNext.1 rest := by
  obtain ⟨rfl, h⟩ := hc
  exact ⟨moveNext_cursorAt h, List.IsSuffix.trans (List.suffix_cons t rest) h⟩

/-- A look-ahead cursor that is back at peek offset 1 is the cursor it started from. -/
theorem Beside.eq_self {c : TokenCursor} (d : Beside c) (hd : d.1.peekOffset = 1)
    (hc : c.peekOffset = 1) : d.1 = c := by
  obtain ⟨⟨tokens, position, offset⟩, htok, hpos⟩ := d
  cases c
  simp only [Cursor.mk.injEq]
  exact ⟨htok, hpos, hd.trans hc.symm⟩

/-! ### Look-aheads -/

/-- Glimpsing for a logical operator answers as the list descent does and leaves the cursor
where it stood. -/
theorem atLogicalOperator_stands {c : TokenCursor} {ts : Tokens} (hc : Stands tokens c ts)
    (w : String) :
    (atLogicalOperator c w).1 = Grammar.atLogical w ts ∧
      Stands tokens (atLogicalOperator c w).2.1 ts := by
  obtain ⟨rfl, hts⟩ := hc
  refine ⟨?_, ?_⟩
  swap
  · rw [Beside.eq_self _ (atLogicalOperator_peekOffset rfl w) rfl]
    exact ⟨rfl, hts⟩
  rw [atLogicalOperator_fst rfl, token_cursorAt hts, lookAhead_cursorAt hts]
  match ts with
  | [] => rfl
  | [t] => simp [Grammar.atLogical]
  | t :: n :: rest => simp [Grammar.atLogical]

theorem valuePathIncoming_stands {c : TokenCursor} {ts : Tokens} (hc : Stands tokens c ts) :
    (valuePathIncoming c).1 = Grammar.valuePathAhead ts ∧
      Stands tokens (valuePathIncoming c).2.1 ts := by
  obtain ⟨rfl, hts⟩ := hc
  refine ⟨?_, ?_⟩
  swap
  · rw [Beside.eq_self _ (valuePathIncoming_peekOffset _) rfl]
    exact ⟨rfl, hts⟩
  rw [valuePathIncoming_fst rfl, Grammar.valuePathAhead]
  conv_rhs => rw [← drop_cursorAt hts]
  simp only [List.drop_drop]
  rfl

/-! ### Single steps -/

theorem expect_agrees {c : TokenCursor} {ts : Tokens} (hc : Stands tokens c ts) (k : TokenKind) :
    Agree (SameRest tokens) (expect ctx k c) (Grammar.expect ctx k ts) := by
  obtain ⟨rfl, hts⟩ := hc
  unfold expect
  split
  · rename_i t ht
    rw [token_cursorAt hts] at ht
    obtain ⟨rest, rfl⟩ := List.head?_eq_some_iff.mp ht
    simp only [Grammar.expect]
    split
    · exact Stands.tail ⟨rfl, hts⟩
    · exact syntaxError_cursorAt hts _
  · rename_i ht
    rw [token_cursorAt hts] at ht
    obtain rfl := List.head?_eq_none_iff.mp ht
    exact syntaxError_cursorAt hts _

/-- A list step that reads only the first token: on a longer list it reads the same and leaves
the rest. -/
def ReadsHead {α : Type} (ctx : Context) (expected : Expected)
    (read : (ts : Tokens) → Except FilterError (α × Shorter ts)) : Prop :=
  read [] = .error (ctx.fail [] expected) ∧
    ∀ t rest, Agree (fun (p : α × Shorter [t]) (q : α × Shorter (t :: rest)) =>
      p.1 = q.1 ∧ q.2.1 = rest) (read [t]) (read (t :: rest))

theorem operator_readsHead : ReadsHead ctx .comparisonOperator (Grammar.operator ctx) := by
  refine ⟨rfl, fun t rest => ?_⟩
  simp only [Grammar.operator]
  split
  · simp [Agree]
  · simp [Agree, Context.fail]

theorem compareValue_readsHead : ReadsHead ctx .compareValue (Grammar.compareValue ctx) := by
  refine ⟨rfl, fun t rest => ?_⟩
  simp only [Grammar.compareValue]
  split
  · simp [Agree]
  · simp [Agree, Context.fail]

theorem single_agrees {α : Type} {read : (ts : Tokens) → Except FilterError (α × Shorter ts)}
    {expected : Expected} (hread : ReadsHead ctx expected read) {c : TokenCursor} {ts : Tokens}
    (hc : Stands tokens c ts) : Agree (Same tokens) (single read ctx expected c) (read ts) := by
  obtain ⟨rfl, hts⟩ := hc
  unfold single
  split
  · rename_i t ht
    rw [token_cursorAt hts] at ht
    obtain ⟨rest, rfl⟩ := List.head?_eq_some_iff.mp ht
    have hagree := hread.2 t rest
    split
    · rename_i a r hr
      rw [hr] at hagree
      cases hq : read (t :: rest) with
      | error e =>
        rw [hq] at hagree
        exact hagree.elim
      | ok q =>
        rw [hq] at hagree
        obtain ⟨ha, hrest⟩ := hagree
        refine ⟨ha, ?_⟩
        rw [hrest]
        exact Stands.tail ⟨rfl, hts⟩
    · rename_i e hr
      rw [hr] at hagree
      cases hq : read (t :: rest) with
      | error e' =>
        rw [hq] at hagree
        exact hagree
      | ok q =>
        rw [hq] at hagree
        exact hagree.elim
  · rename_i ht
    rw [token_cursorAt hts] at ht
    obtain rfl := List.head?_eq_none_iff.mp ht
    rw [hread.1]
    exact syntaxError_cursorAt hts _

/-! ### Attribute paths -/

/-- The loop of an attribute path reads the path tokens the list descent reads, one per
iteration, appending their texts. -/
theorem pathLoop_agrees {c : TokenCursor} {ts : Tokens} (hc : Stands tokens c ts) (raw : String) :
    Agree (fun (p : String × Onward c)
        (q : { x : List String × Tokens // x.1.length + x.2.length = ts.length }) =>
        p.1 = raw ++ String.join q.1.1 ∧ Stands tokens p.2.1 q.1.2)
      (pathLoop ctx c raw) (Grammar.pathTexts ctx ts) := by
  induction ts generalizing c raw with
  | nil =>
    obtain ⟨rfl, hts⟩ := hc
    rw [pathLoop]
    split
    · exact ⟨by simp, rfl, hts⟩
    · rename_i t ht
      rw [token_cursorAt hts] at ht
      cases ht
  | cons t rest ih =>
    obtain ⟨rfl, hts⟩ := hc
    rw [pathLoop]
    split
    · rename_i ht
      rw [token_cursorAt hts] at ht
      cases ht
    rename_i t' ht
    rw [token_cursorAt hts] at ht
    cases ht
    simp only [Grammar.pathTexts]
    split
    · exact ⟨by simp, rfl, hts⟩
    split
    · exact syntaxError_cursorAt hts _
    have hlt := position_lt_of_token ht
    have hnext := ih (c := (advance (cursorAt tokens (t :: rest)) hlt).1) (Stands.tail ⟨rfl, hts⟩)
      (raw ++ t.text)
    obtain ⟨e, hp, hq⟩ | ⟨p, q, hp, hq, hraw, hrest⟩ := hnext.cases
    · rw [hp, hq]
      exact rfl
    · rw [hp, hq]
      exact ⟨by simp [hraw, String.join_cons, String.append_assoc], hrest⟩

/-- Where every token has a text, an attribute path is read alike: an empty one can only be
the path of no token, refused at the same token by both descents. -/
theorem attributePath_agrees (hne : ∀ t ∈ tokens.toList, t.text ≠ "") {c : TokenCursor}
    {ts : Tokens} (hc : Stands tokens c ts) :
    Agree (Same tokens) (attributePath ctx c) (Grammar.attributePath ctx ts) := by
  have hloop : Agree _ (pathLoop ctx c "") (Grammar.pathTexts ctx ts) := pathLoop_agrees hc ""
  simp only [attributePath, Grammar.attributePath]
  obtain ⟨e, hp, hq⟩ | ⟨⟨raw, d⟩, ⟨⟨texts, r⟩, hlen⟩, hp, hq, hraw, hd⟩ := hloop.cases
  · rw [hp, hq]
    exact rfl
  · rw [hp, hq]
    obtain ⟨qs, hsplit, htexts, -, -⟩ := Grammar.pathTexts_eq_ok hq
    dsimp only at hraw hd hsplit htexts
    rw [Grammar.ok_bind]
    subst hraw
    cases texts with
    | nil =>
      -- no path token: both refuse at the token where the loop stopped, the first one
      obtain rfl : qs = [] := List.map_eq_nil_iff.mp htexts.symm
      obtain rfl : r = ts := hsplit.symm
      obtain ⟨hd, hsuf⟩ := hd
      simp only [hd, syntaxError_cursorAt hsuf]
      exact rfl
    | cons text more =>
      obtain ⟨t, qs', rfl, rfl⟩ : ∃ t qs', qs = t :: qs' ∧ text = t.text := by
        cases qs with
        | nil => cases htexts
        | cons t qs' => exact ⟨t, qs', rfl, (List.cons.inj htexts).1⟩
      have htext : t.text ≠ "" :=
        hne t (hc.2.subset (by simp [hsplit]))
      have hjoin : (String.join (t.text :: more)).isEmpty = false := by
        simp [String.join_cons, htext]
      simp only [String.empty_append, hjoin, Bool.false_eq_true, if_false]
      cases AttributePath.parse (String.join (t.text :: more)) with
      | ok p => exact ⟨rfl, hd⟩
      | error e => exact rfl

theorem comparison_agrees (hne : ∀ t ∈ tokens.toList, t.text ≠ "") {c : TokenCursor}
    {ts : Tokens} (hc : Stands tokens c ts) :
    Agree (Same tokens) (comparison ctx c) (Grammar.comparison ctx ts) := by
  simp only [comparison, Grammar.comparison]
  refine Agree.bind (attributePath_agrees hne hc) ?_
  rintro ⟨attr, d⟩ ⟨attr', r₁, h₁⟩ ⟨rfl, hd⟩
  refine Agree.bind (expect_agrees hd .whitespace) ?_
  rintro e ⟨r₂, h₂⟩ he
  refine Agree.bind (single_agrees operator_readsHead he) ?_
  rintro ⟨op, f⟩ ⟨op', r₃, h₃⟩ ⟨rfl, hf⟩
  by_cases hpresent : op.isPresent = true
  · simp only [hpresent, if_true]
    exact ⟨rfl, hf⟩
  · simp only [hpresent, Bool.false_eq_true, if_false]
    refine Agree.bind (expect_agrees hf .whitespace) ?_
    rintro g ⟨r₄, h₄⟩ hg
    refine Agree.bind (single_agrees compareValue_readsHead hg) ?_
    rintro ⟨v, k⟩ ⟨v', r₅, h₅⟩ ⟨rfl, hk⟩
    exact ⟨rfl, hk⟩

theorem logicalOperator_agrees {c : TokenCursor} {ts : Tokens} (hc : Stands tokens c ts) :
    Agree (SameRest tokens) (logicalOperator ctx c) (Grammar.logicalOperator ctx ts) := by
  simp only [logicalOperator, Grammar.logicalOperator]
  refine Agree.bind (expect_agrees hc .whitespace) ?_
  rintro d ⟨r₁, h₁⟩ hd
  refine Agree.bind (expect_agrees hd .name) ?_
  rintro e ⟨r₂, h₂⟩ he
  refine Agree.bind (expect_agrees he .whitespace) ?_
  rintro f ⟨r₃, h₃⟩ hf
  exact hf

/-! ### The productions -/

/-- Started at a cursor standing for `ts`, each production of the shared-cursor descent agrees
with the list production on `ts`. The induction follows the list descent's own recursion. -/
theorem descent_agrees (hne : ∀ t ∈ tokens.toList, t.text ≠ "") (ctx : Context) :
    (∀ ts, ∀ {c : TokenCursor}, Stands tokens c ts →
      Agree (Same tokens) (expression ctx c) (Grammar.expression ctx ts)) ∧
    (∀ ts, ∀ {c : TokenCursor}, Stands tokens c ts →
      Agree (Same tokens) (term ctx c) (Grammar.term ctx ts)) ∧
    (∀ ts, ∀ {c : TokenCursor}, Stands tokens c ts →
      Agree (Same tokens) (factor ctx c) (Grammar.factor ctx ts)) ∧
    (∀ ts, ∀ {c : TokenCursor}, Stands tokens c ts →
      Agree (Same tokens) (groupedExpression ctx c) (Grammar.group ctx ts)) := by
  apply Grammar.expression.mutual_induct ctx
  case case1 =>
    intro ts ihTerm ihExpr c hc
    rw [expression, Grammar.expression]
    refine Agree.bind (ihTerm hc) ?_
    rintro ⟨left, d⟩ ⟨left', r₁, h₁⟩ ⟨rfl, hd⟩
    obtain ⟨hor, hlook⟩ := atLogicalOperator_stands hd "or"
    dsimp only
    rw [hor]
    split
    · refine Agree.bind (logicalOperator_agrees hlook) ?_
      rintro e ⟨r₂, h₂⟩ he
      refine Agree.bind (ihExpr r₁ h₁ r₂ h₂ he) ?_
      rintro ⟨right, f⟩ ⟨right', r₃, h₃⟩ ⟨rfl, hf⟩
      exact ⟨rfl, hf⟩
    · exact ⟨rfl, hlook⟩
  case case2 =>
    intro ts ihFactor ihTerm c hc
    rw [term, Grammar.term]
    refine Agree.bind (ihFactor hc) ?_
    rintro ⟨left, d⟩ ⟨left', r₁, h₁⟩ ⟨rfl, hd⟩
    obtain ⟨hand, hlook⟩ := atLogicalOperator_stands hd "and"
    dsimp only
    rw [hand]
    split
    · refine Agree.bind (logicalOperator_agrees hlook) ?_
      rintro e ⟨r₂, h₂⟩ he
      refine Agree.bind (ihTerm r₁ h₁ r₂ h₂ he) ?_
      rintro ⟨right, f⟩ ⟨right', r₃, h₃⟩ ⟨rfl, hf⟩
      exact ⟨rfl, hf⟩
    · exact ⟨rfl, hlook⟩
  case case3 =>
    intro ts hnot ihGroup c hc
    rw [factor, Grammar.factor, hc.token, if_pos hnot, if_pos hnot, negatedExpression]
    simp only [bind_assoc]
    refine Agree.bind (expect_agrees hc .name) ?_
    rintro d ⟨r₁, h₁⟩ hd
    refine Agree.bind (expect_agrees hd .whitespace) ?_
    rintro e ⟨r₂, h₂⟩ he
    refine Agree.bind (ihGroup r₁ h₁ r₂ h₂ he) ?_
    rintro ⟨inner, f⟩ ⟨inner', r₃, h₃⟩ ⟨rfl, hf⟩
    exact ⟨rfl, hf⟩
  case case4 =>
    intro ts hnot hparen ihGroup c hc
    rw [factor, Grammar.factor, hc.token, if_neg hnot, if_neg hnot, if_pos hparen,
      if_pos hparen]
    refine Agree.bind (ihGroup hc) ?_
    rintro ⟨inner, d⟩ ⟨inner', r⟩ ⟨rfl, hd⟩
    exact ⟨rfl, hd⟩
  case case5 =>
    intro ts hnot hparen hvalue ihExpr c hc
    obtain ⟨hahead, hlook⟩ := valuePathIncoming_stands hc
    rw [factor, Grammar.factor, hc.token, if_neg hnot, if_neg hnot, if_neg hparen,
      if_neg hparen]
    dsimp only
    rw [hahead, if_pos hvalue, if_pos hvalue, valuePath]
    simp only [bind_assoc]
    refine Agree.bind (attributePath_agrees hne hlook) ?_
    rintro ⟨attr, d⟩ ⟨attr', r₁, h₁⟩ ⟨rfl, hd⟩
    refine Agree.bind (expect_agrees hd .openBracket) ?_
    rintro e ⟨r₂, h₂⟩ he
    refine Agree.bind (ihExpr r₁ h₁ r₂ h₂ he) ?_
    rintro ⟨filter, f⟩ ⟨filter', r₃, h₃⟩ ⟨rfl, hf⟩
    refine Agree.bind (expect_agrees hf .closeBracket) ?_
    rintro g ⟨r₄, h₄⟩ hg
    by_cases hnest : filter.containsValuePath = true
    · simp only [hnest, if_true]
      exact rfl
    · simp only [hnest, Bool.false_eq_true, if_false]
      exact ⟨rfl, hg⟩
  case case6 =>
    intro ts hnot hparen hvalue c hc
    obtain ⟨hahead, hlook⟩ := valuePathIncoming_stands hc
    rw [factor, Grammar.factor, hc.token, if_neg hnot, if_neg hnot, if_neg hparen,
      if_neg hparen]
    dsimp only
    rw [hahead, if_neg hvalue, if_neg hvalue]
    refine Agree.bind (comparison_agrees hne hlook) ?_
    rintro ⟨cmp, d⟩ ⟨cmp', r⟩ ⟨rfl, hd⟩
    exact ⟨rfl, hd⟩
  case case7 =>
    intro ts ihExpr c hc
    rw [groupedExpression, Grammar.group]
    refine Agree.bind (expect_agrees hc .openParen) ?_
    rintro d ⟨r₁, h₁⟩ hd
    refine Agree.bind (ihExpr r₁ h₁ hd) ?_
    rintro ⟨inner, e⟩ ⟨inner', r₂, h₂⟩ ⟨rfl, he⟩
    refine Agree.bind (expect_agrees he .closeParen) ?_
    rintro f ⟨r₃, h₃⟩ hf
    exact ⟨rfl, hf⟩

/-! ### Paths and whole readings -/

theorem path_agrees (hne : ∀ t ∈ tokens.toList, t.text ≠ "") {c : TokenCursor} {ts : Tokens}
    (hc : Stands tokens c ts) :
    Agree (fun (p : Path × TokenCursor) (q : Path × Tokens) => p.1 = q.1 ∧ Stands tokens p.2 q.2)
      (path ctx c) (Grammar.path ctx ts) := by
  simp only [path, Grammar.path]
  refine Agree.bind (attributePath_agrees hne hc) ?_
  rintro ⟨attr, d⟩ ⟨attr', r₁, h₁⟩ ⟨rfl, hd⟩
  dsimp only at hd ⊢
  cases r₁ with
  | nil =>
    rw [if_pos (by simpa using hd.isAtEnd)]
    exact ⟨rfl, hd⟩
  | cons t rest =>
    rw [if_neg (by simp [hd.isAtEnd]), hd.token]
    by_cases hbracket : (t.kind == .openBracket) = true
    · simp only [List.head?_cons, Option.any_some, hbracket, Bool.not_true, Bool.false_eq_true,
        if_false, bne]
      refine Agree.bind (expect_agrees hd .openBracket) ?_
      rintro e ⟨r₂, h₂⟩ he
      refine Agree.bind ((descent_agrees hne ctx).1 r₂ he) ?_
      rintro ⟨filter, f⟩ ⟨filter', r₃, h₃⟩ ⟨rfl, hf⟩
      refine Agree.bind (expect_agrees hf .closeBracket) ?_
      rintro g ⟨r₄, h₄⟩ hg
      by_cases hnest : filter.containsValuePath = true
      · simp only [hnest, if_true]
        exact rfl
      simp only [hnest, Bool.false_eq_true, if_false, hg.token]
      -- after `]`, a `.` and a name may follow
      cases r₄ with
      | nil => exact ⟨rfl, hg⟩
      | cons dot r₅ =>
        by_cases hdot : (dot.kind == .dot) = true
        · have hnext := Stands.tail hg
          simp only [List.head?_cons, Option.any_some, hdot, Bool.not_true, Bool.false_eq_true,
            if_false, hnext.token]
          cases r₅ with
          | nil => exact ⟨rfl, hnext⟩
          | cons n r₆ =>
            by_cases hname : (n.kind == .name) = true
            · simp only [List.head?_cons, hname, if_true]
              exact ⟨rfl, Stands.tail hnext⟩
            · simp only [List.head?_cons, hname, Bool.false_eq_true, if_false, if_true]
              exact ⟨rfl, hnext⟩
        · simp only [List.head?_cons, Option.any_some, hdot, Bool.not_false, if_true,
            Bool.false_eq_true, if_false]
          exact ⟨rfl, hg⟩
    · simp only [List.head?_cons, Option.any_some, hbracket, Bool.not_false, if_true, bne,
        Bool.not_eq_true']
      exact hd.syntaxError .path

theorem expectEnd_agrees {c : TokenCursor} {ts : Tokens} (hc : Stands tokens c ts) :
    expectEnd ctx c = Grammar.expectEnd ctx ts := by
  simp only [expectEnd, Grammar.expectEnd, hc.isAtEnd, hc.syntaxError]

/-- Where every token has a text, the shared-cursor descent reads the tokens as a filter exactly
as the list descent does. -/
theorem filter_agrees (hne : ∀ t ∈ tokens.toList, t.text ≠ "") (ctx : Context) :
    filter ctx tokens = Grammar.filter ctx tokens.toList := by
  apply Agree.eq
  simp only [filter, Grammar.filter]
  refine Agree.bind ((descent_agrees hne ctx).1 _ (Stands.new tokens)) ?_
  rintro ⟨e, d⟩ ⟨e', r, hr⟩ ⟨rfl, hd⟩
  rw [expectEnd_agrees hd]
  exact Agree.refl _

/-- Where every token has a text, the shared-cursor descent reads the tokens as a path exactly
as the list descent does. -/
theorem wholePath_agrees (hne : ∀ t ∈ tokens.toList, t.text ≠ "") (ctx : Context) :
    wholePath ctx tokens = Grammar.wholePath ctx tokens.toList := by
  apply Agree.eq
  simp only [wholePath, Grammar.wholePath]
  refine Agree.bind (path_agrees hne (Stands.new tokens)) ?_
  rintro ⟨p, d⟩ ⟨p', r⟩ ⟨rfl, hd⟩
  rw [expectEnd_agrees hd]
  exact Agree.refl _

end ScimFilter.CursorGrammar

namespace ScimFilter

open Grammar (Tokens)

theorem text_ne_of_tokenize {v : Version} {s : String} {ts : Tokens}
    (h : tokenize v s = .ok ts) : ∀ t ∈ ts, t.text ≠ "" := by
  intro t ht
  cases hscan : Lexer.scimScan v s with
  | error e => simp [tokenize, hscan, Except.mapError] at h
  | ok us =>
    rw [tokenize_of_scan hscan] at h
    cases h
    exact Lexer.text_ne_of_mem_readTokens (by rw [readTokens_of_scimScan_ok hscan]; exact ht)

/-- The readers of filters and paths read the same with the shared-cursor descent as with the
token-list descent: a scan leaves no token without a text. -/
theorem read_shared_cursor (v : Version) (s : String) :
    readFilter s v = (do
        let ts ← tokenize v s
        CursorGrammar.filter (.of v s) ts.toArray) ∧
      readPath s v = (do
        let _ ← Reader.new .path v
        let ts ← tokenize v s
        CursorGrammar.wholePath (.of v s) ts.toArray) := by
  constructor
  · simp only [readFilter]
    cases h : tokenize v s with
    | error e => rfl
    | ok ts =>
      simp only [Grammar.ok_bind]
      rw [CursorGrammar.filter_agrees (by simpa using text_ne_of_tokenize h), List.toList_toArray]
  · simp only [readPath]
    cases Reader.new .path v with
    | error e => rfl
    | ok r =>
      simp only [Grammar.ok_bind]
      cases h : tokenize v s with
      | error e => rfl
      | ok ts =>
        simp only [Grammar.ok_bind]
        rw [CursorGrammar.wholePath_agrees (by simpa using text_ne_of_tokenize h),
          List.toList_toArray]

end ScimFilter
