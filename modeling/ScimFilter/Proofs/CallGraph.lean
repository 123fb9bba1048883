import ScimFilter.Filter.CursorGrammar
import ScimFilter.Proofs.Productions
import Mathlib.Logic.Relation
import Mathlib.Data.List.Chain
/-!
The calls of the shared-cursor descent. A call is a production with the cursor it starts from;
`Calls` has one constructor per call site, under what the caller has read before it. The loop of
an attribute path counts as a production that calls itself once per iteration.

Every call keeps the tokens, never moves the cursor back, and lowers the rank
`5 · (tokens left) + level` (`Calls.forward`). So a production re-entered through any chain of
calls has moved the cursor strictly forward, a chain of re-entries is no longer than the tokens
left, and no chain of calls goes on forever (`descent_moves_forward`).

The peek offset is 1 at the start of every call reachable from a new cursor and at the end of
every production started with it, and at offset 1 the look-aheads see the tokens right after
the current one (`peek_offset_stays_one`).
-/

namespace ScimFilter.CursorGrammar

open Grammar (Context pathKinds pathStopKinds lookaheadKinds bind_eq_ok)
open Relation

/-- The productions of the descent, and the loop of an attribute path. -/
inductive Production where
  | expression
  | term
  | factor
  | negatedExpression
  | groupedExpression
  | valuePath
  | comparison
  | path
  | attributePath
  deriving DecidableEq, Repr

/-- A production with the cursor it starts from. -/
abbrev Call := Production × TokenCursor

variable {ctx : Context}

/-- `Calls ctx a b`: the production of `a`, started at its cursor, calls the production of `b`
at its cursor. -/
inductive Calls (ctx : Context) : Call → Call → Prop
  | expressionTerm (c : TokenCursor) : Calls ctx (.expression, c) (.term, c)
  | expressionOr {c : TokenCursor} {left : Term} {d : Ahead c} {d' : Beside d.1} {e : Ahead d'.1}
      (hterm : term ctx c = .ok (left, d)) (hor : atLogicalOperator d.1 "or" = (true, d'))
      (hop : logicalOperator ctx d'.1 = .ok e) :
      Calls ctx (.expression, c) (.expression, e.1)
  | termFactor (c : TokenCursor) : Calls ctx (.term, c) (.factor, c)
  | termAnd {c : TokenCursor} {left : Factor} {d : Ahead c} {d' : Beside d.1} {e : Ahead d'.1}
      (hfactor : factor ctx c = .ok (left, d)) (hand : atLogicalOperator d.1 "and" = (true, d'))
      (hop : logicalOperator ctx d'.1 = .ok e) :
      Calls ctx (.term, c) (.term, e.1)
  | factorNegated {c : TokenCursor} (hnot : c.token.any (·.isName "not") = true) :
      Calls ctx (.factor, c) (.negatedExpression, c)
  | factorGrouped {c : TokenCursor} (hnot : c.token.any (·.isName "not") = false)
      (hparen : c.token.any (·.kind == .openParen) = true) :
      Calls ctx (.factor, c) (.groupedExpression, c)
  | factorValuePath {c : TokenCursor} {c' : Beside c}
      (hnot : c.token.any (·.isName "not") = false)
      (hparen : c.token.any (·.kind == .openParen) = false)
      (hahead : valuePathIncoming c = (true, c'))
      (hversion : ctx.version.supportsValueFilters = true) :
      Calls ctx (.factor, c) (.valuePath, c'.1)
  | factorComparison {c : TokenCursor} {incoming : Bool} {c' : Beside c}
      (hnot : c.token.any (·.isName "not") = false)
      (hparen : c.token.any (·.kind == .openParen) = false)
      (hahead : valuePathIncoming c = (incoming, c'))
      (hvalue : (incoming && ctx.version.supportsValueFilters) = false) :
      Calls ctx (.factor, c) (.comparison, c'.1)
  | negatedGrouped {c : TokenCursor} {d : Ahead c} {e : Ahead d.1}
      (hname : expect ctx .name c = .ok d) (hspace : expect ctx .whitespace d.1 = .ok e) :
      Calls ctx (.negatedExpression, c) (.groupedExpression, e.1)
  | groupedInner {c : TokenCursor} {d : Ahead c} (hopen : expect ctx .openParen c = .ok d) :
      Calls ctx (.groupedExpression, c) (.expression, d.1)
  | valuePathAttribute (c : TokenCursor) : Calls ctx (.valuePath, c) (.attributePath, c)
  | valuePathFilter {c : TokenCursor} {attr : AttributePath} {d : Onward c} {e : Ahead d.1}
      (hattr : attributePath ctx c = .ok (attr, d)) (hopen : expect ctx .openBracket d.1 = .ok e) :
      Calls ctx (.valuePath, c) (.expression, e.1)
  | comparisonAttribute (c : TokenCursor) : Calls ctx (.comparison, c) (.attributePath, c)
  | pathAttribute (c : TokenCursor) : Calls ctx (.path, c) (.attributePath, c)
  | pathFilter {c : TokenCursor} {attr : AttributePath} {d : Onward c} {e : Ahead d.1}
      (hattr : attributePath ctx c = .ok (attr, d)) (hend : d.1.isAtEnd = false)
      (hopen : expect ctx .openBracket d.1 = .ok e) :
      Calls ctx (.path, c) (.expression, e.1)
  | attributeNext {c : TokenCursor} {t : Token TokenKind} (htoken : c.token = some t)
      (hstop : t.isAny pathStopKinds = false) (hpath : t.isAny pathKinds = true) :
      Calls ctx (.attributePath, c) (.attributePath, c.moveNext.1)

/-! ### Progress -/

/-- How many calls a production may make before one that moves the cursor. -/
def Production.level : Production → Nat
  | .expression => 4
  | .term => 3
  | .factor => 2
  | .valuePath | .comparison | .path => 1
  | .negatedExpression | .groupedExpression | .attributePath => 0

/-- The rank of a call, which every call it makes lowers. -/
def rank (a : Call) : Nat := 5 * remaining a.2 + a.1.level

theorem forward_of_ahead {p q : Production} {c : TokenCursor} (d : Ahead c) :
    d.1.tokens = c.tokens ∧ c.position ≤ d.1.position ∧ rank (q, d.1) < rank (p, c) := by
  have hlt := d.remaining_lt
  have hq : q.level < 5 := by cases q <;> decide
  exact ⟨d.2.1, Nat.le_of_lt d.2.2.1, by simp only [rank]; omega⟩

theorem forward_of_beside {p q : Production} {c : TokenCursor} (d : Beside c)
    (h : q.level < p.level) :
    d.1.tokens = c.tokens ∧ c.position ≤ d.1.position ∧ rank (q, d.1) < rank (p, c) := by
  have heq := d.remaining_eq
  exact ⟨d.2.1, Nat.le_of_eq d.2.2.symm, by simp only [rank]; omega⟩

/-- One call keeps the tokens, does not move the cursor back and lowers the rank. -/
theorem Calls.forward {a b : Call} (h : Calls ctx a b) :
    b.2.tokens = a.2.tokens ∧ a.2.position ≤ b.2.position ∧ rank b < rank a := by
  cases h with
  | expressionTerm c => exact forward_of_beside ⟨c, rfl, rfl⟩ (by decide)
  | @expressionOr c _ d d' e => exact forward_of_ahead ((d.beside d').trans e)
  | termFactor c => exact forward_of_beside ⟨c, rfl, rfl⟩ (by decide)
  | @termAnd c _ d d' e => exact forward_of_ahead ((d.beside d').trans e)
  | @factorNegated c => exact forward_of_beside ⟨c, rfl, rfl⟩ (by decide)
  | @factorGrouped c => exact forward_of_beside ⟨c, rfl, rfl⟩ (by decide)
  | @factorValuePath c c' => exact forward_of_beside c' (by decide)
  | @factorComparison c _ c' => exact forward_of_beside c' (by decide)
  | @negatedGrouped c d e => exact forward_of_ahead (d.trans e)
  | @groupedInner c d => exact forward_of_ahead d
  | valuePathAttribute c => exact forward_of_beside ⟨c, rfl, rfl⟩ (by decide)
  | @valuePathFilter c _ d e => exact forward_of_ahead (d.ahead e)
  | comparisonAttribute c => exact forward_of_beside ⟨c, rfl, rfl⟩ (by decide)
  | pathAttribute c => exact forward_of_beside ⟨c, rfl, rfl⟩ (by decide)
  | @pathFilter c _ d e => exact forward_of_ahead (d.ahead e)
  | @attributeNext c t htoken => exact forward_of_ahead (advance c (position_lt_of_token htoken))

theorem Calls.transGen_forward {a b : Call} (h : TransGen (Calls ctx) a b) :
    b.2.tokens = a.2.tokens ∧ a.2.position ≤ b.2.position ∧ rank b < rank a := by
  induction h with
  | single h => exact h.forward
  | tail _ h ih =>
    obtain ⟨htok, hle, hlt⟩ := h.forward
    exact ⟨htok.trans ih.1, Nat.le_trans ih.2.1 hle, Nat.lt_trans hlt ih.2.2⟩

/-- A production re-entered has moved the cursor forward, and fewer tokens are left. -/
theorem Calls.reenter_forward {p : Production} {c d : TokenCursor}
    (h : TransGen (Calls ctx) (p, c) (p, d)) : c.position < d.position ∧ remaining d < remaining c := by
  obtain ⟨htok, -, hrank⟩ := Calls.transGen_forward h
  have hsize : d.tokens.size = c.tokens.size := congrArg Array.size htok
  simp only [rank, remaining] at hrank ⊢
  omega

theorem reentries_length_le {p : Production} {c : TokenCursor} {chain : List TokenCursor}
    (h : List.IsChain (fun a b => TransGen (Calls ctx) (p, a) (p, b)) (c :: chain)) :
    chain.length ≤ remaining c := by
  induction chain generalizing c with
  | nil => simp
  | cons d chain ih =>
    obtain ⟨hcd, hrest⟩ := List.isChain_cons_cons.mp h
    have hd := (Calls.reenter_forward hcd).2
    have hchain := ih hrest
    simp only [List.length_cons]
    omega

/-- The descent moves forward. No call moves the cursor back or to other tokens. A production
re-entered through any chain of calls has moved it strictly forward; this covers the loop of an
attribute path at each iteration, and expression and term, re-entered past a `(`, a `not` and
whitespace, an attribute path and `[`, or `WS and WS` and `WS or WS`. So a chain of re-entries
is no longer than the tokens left, and no chain of calls goes on forever. -/
theorem descent_moves_forward (ctx : Context) :
    (∀ {p q : Production} {c d : TokenCursor}, Calls ctx (p, c) (q, d) →
      d.tokens = c.tokens ∧ c.position ≤ d.position) ∧
    (∀ {p : Production} {c d : TokenCursor}, TransGen (Calls ctx) (p, c) (p, d) →
      c.position < d.position) ∧
    (∀ {p : Production} {c : TokenCursor} {chain : List TokenCursor},
      List.IsChain (fun a b => TransGen (Calls ctx) (p, a) (p, b)) (c :: chain) →
      chain.length ≤ remaining c) ∧
    WellFounded (fun b a => Calls ctx a b) :=
  ⟨fun h => ⟨h.forward.1, h.forward.2.1⟩, fun h => (Calls.reenter_forward h).1,
    reentries_length_le, Subrelation.wf (fun h => h.forward.2.2) (InvImage.wf rank Nat.lt_wfRel.wf)⟩

/-! ### The peek offset -/

/-- The cursor a production leaves, started at `c`. -/
def Production.run (ctx : Context) : Production → TokenCursor → Except FilterError TokenCursor
  | .expression, c => (CursorGrammar.expression ctx c).map (·.2.1)
  | .term, c => (CursorGrammar.term ctx c).map (·.2.1)
  | .factor, c => (CursorGrammar.factor ctx c).map (·.2.1)
  | .negatedExpression, c => (CursorGrammar.negatedExpression ctx c).map (·.2.1)
  | .groupedExpression, c => (CursorGrammar.groupedExpression ctx c).map (·.2.1)
  | .valuePath, c => (CursorGrammar.valuePath ctx c).map (·.2.1)
  | .comparison, c => (CursorGrammar.comparison ctx c).map (·.2.1)
  | .path, c => (CursorGrammar.path ctx c).map (·.2)
  | .attributePath, c => (CursorGrammar.attributePath ctx c).map (·.2.1)

theorem expect_peekOffset {k : TokenKind} {c : TokenCursor} {d : Ahead c}
    (h : expect ctx k c = .ok d) : d.1.peekOffset = 1 := by
  unfold expect at h
  split at h
  · split at h
    · cases h
      rfl
    · cases h
  · cases h

theorem single_peekOffset {α : Type}
    {read : (ts : Grammar.Tokens) → Except FilterError (α × Grammar.Shorter ts)} {e : Expected}
    {c : TokenCursor} {a : α} {d : Ahead c} (h : single read ctx e c = .ok (a, d)) :
    d.1.peekOffset = 1 := by
  unfold single at h
  split at h
  · split at h
    · cases h
      rfl
    · cases h
  · cases h

theorem logicalOperator_peekOffset {c : TokenCursor} {d : Ahead c}
    (h : logicalOperator ctx c = .ok d) : d.1.peekOffset = 1 := by
  simp only [logicalOperator] at h
  obtain ⟨d, -, h⟩ := bind_eq_ok.mp h
  obtain ⟨e, -, h⟩ := bind_eq_ok.mp h
  obtain ⟨f, hf, h⟩ := bind_eq_ok.mp h
  cases h
  exact expect_peekOffset (d := f) hf

/-- Testing for `and` or `or` glimpses and sets the peek offset back. -/
theorem atLogicalOperator_peekOffset {c : TokenCursor} (hc : c.peekOffset = 1) (w : String) :
    (atLogicalOperator c w).2.1.peekOffset = 1 := by
  unfold atLogicalOperator
  split
  · rfl
  · exact hc

/-- Testing for a value path peeks ahead and sets the peek offset back. -/
theorem valuePathIncoming_peekOffset (c : TokenCursor) :
    (valuePathIncoming c).2.1.peekOffset = 1 :=
  rfl

theorem pathLoop_peekOffset {c : TokenCursor} {raw raw' : String} {d : Onward c}
    (hc : c.peekOffset = 1) (h : pathLoop ctx c raw = .ok (raw', d)) : d.1.peekOffset = 1 := by
  rw [pathLoop] at h
  split at h
  · cases h
    exact hc
  · split at h
    · cases h
      exact hc
    split at h
    · cases h
    dsimp only at h
    split at h
    · rename_i e he
      cases h
      exact pathLoop_peekOffset (d := e) rfl he
    · cases h
termination_by remaining c
decreasing_by exact Ahead.remaining_lt _

theorem attributePath_peekOffset {c : TokenCursor} {attr : AttributePath} {d : Onward c}
    (hc : c.peekOffset = 1) (h : attributePath ctx c = .ok (attr, d)) : d.1.peekOffset = 1 := by
  simp only [attributePath] at h
  obtain ⟨⟨raw, e⟩, he, h⟩ := bind_eq_ok.mp h
  dsimp only at h
  split at h
  · cases h
  split at h
  · cases h
    exact pathLoop_peekOffset hc he
  · cases h

theorem comparison_peekOffset {c : TokenCursor} {x : Comparison} {d : Ahead c}
    (h : comparison ctx c = .ok (x, d)) : d.1.peekOffset = 1 := by
  simp only [comparison] at h
  obtain ⟨⟨attr, d₁⟩, -, h⟩ := bind_eq_ok.mp h
  obtain ⟨e, -, h⟩ := bind_eq_ok.mp h
  obtain ⟨⟨op, f⟩, hf, h⟩ := bind_eq_ok.mp h
  dsimp only at h
  split at h
  · cases h
    exact single_peekOffset (d := f) hf
  obtain ⟨g, -, h⟩ := bind_eq_ok.mp h
  obtain ⟨⟨v, k⟩, hk, h⟩ := bind_eq_ok.mp h
  cases h
  exact single_peekOffset (d := k) hk

theorem groupedExpression_peekOffset {c : TokenCursor} {x : Expression} {d : Ahead c}
    (h : groupedExpression ctx c = .ok (x, d)) : d.1.peekOffset = 1 := by
  rw [groupedExpression] at h
  obtain ⟨d₁, -, h⟩ := bind_eq_ok.mp h
  obtain ⟨⟨inner, e⟩, -, h⟩ := bind_eq_ok.mp h
  obtain ⟨f, hf, h⟩ := bind_eq_ok.mp h
  cases h
  exact expect_peekOffset (d := f) hf

theorem negatedExpression_peekOffset {c : TokenCursor} {x : Expression} {d : Ahead c}
    (h : negatedExpression ctx c = .ok (x, d)) : d.1.peekOffset = 1 := by
  rw [negatedExpression] at h
  obtain ⟨d₁, -, h⟩ := bind_eq_ok.mp h
  obtain ⟨e, -, h⟩ := bind_eq_ok.mp h
  obtain ⟨⟨inner, f⟩, hf, h⟩ := bind_eq_ok.mp h
  cases h
  exact groupedExpression_peekOffset (d := f) hf

theorem valuePath_peekOffset {c : TokenCursor} {x : AttributePath × Expression} {d : Ahead c}
    (h : valuePath ctx c = .ok (x, d)) : d.1.peekOffset = 1 := by
  rw [valuePath] at h
  obtain ⟨⟨attr, d₁⟩, -, h⟩ := bind_eq_ok.mp h
  obtain ⟨e, -, h⟩ := bind_eq_ok.mp h
  obtain ⟨⟨filter, f⟩, -, h⟩ := bind_eq_ok.mp h
  obtain ⟨g, hg, h⟩ := bind_eq_ok.mp h
  dsimp only at h
  split at h
  · cases h
  · cases h
    exact expect_peekOffset (d := g) hg

/-- A factor ends with a single-token step, whichever of its four forms it takes. -/
theorem factor_peekOffset {c : TokenCursor} {x : Factor} {d : Ahead c}
    (h : factor ctx c = .ok (x, d)) : d.1.peekOffset = 1 := by
  rw [factor] at h
  split at h
  · obtain ⟨⟨inner, e⟩, he, h⟩ := bind_eq_ok.mp h
    cases h
    exact negatedExpression_peekOffset he
  split at h
  · obtain ⟨⟨inner, e⟩, he, h⟩ := bind_eq_ok.mp h
    cases h
    exact groupedExpression_peekOffset he
  split at h
  split at h
  · obtain ⟨⟨x, e⟩, he, h⟩ := bind_eq_ok.mp h
    cases h
    exact valuePath_peekOffset (d := e) he
  · obtain ⟨⟨x, e⟩, he, h⟩ := bind_eq_ok.mp h
    cases h
    exact comparison_peekOffset (d := e) he

/-- A term ends after a factor and an `and` test, or after a further term. -/
theorem term_peekOffset {c : TokenCursor} {x : Term} {d : Ahead c}
    (h : term ctx c = .ok (x, d)) : d.1.peekOffset = 1 := by
  rw [term] at h
  obtain ⟨⟨left, d₁⟩, hd₁, h⟩ := bind_eq_ok.mp h
  dsimp only at h
  split at h
  · obtain ⟨e, -, h⟩ := bind_eq_ok.mp h
    obtain ⟨⟨right, f⟩, hf, h⟩ := bind_eq_ok.mp h
    cases h
    exact term_peekOffset (d := f) hf
  · cases h
    exact atLogicalOperator_peekOffset (factor_peekOffset hd₁) "and"
termination_by remaining c
decreasing_by exact Ahead.remaining_lt _

/-- An expression ends after a term and an `or` test, or after a further expression. -/
theorem expression_peekOffset {c : TokenCursor} {x : Expression} {d : Ahead c}
    (h : expression ctx c = .ok (x, d)) : d.1.peekOffset = 1 := by
  rw [expression] at h
  obtain ⟨⟨left, d₁⟩, hd₁, h⟩ := bind_eq_ok.mp h
  dsimp only at h
  split at h
  · obtain ⟨e, -, h⟩ := bind_eq_ok.mp h
    obtain ⟨⟨right, f⟩, hf, h⟩ := bind_eq_ok.mp h
    cases h
    exact expression_peekOffset (d := f) hf
  · cases h
    exact atLogicalOperator_peekOffset (term_peekOffset hd₁) "or"
termination_by remaining c
decreasing_by exact Ahead.remaining_lt _

/-- A path ends where its attribute path ends, which keeps the offset it started with, or after
a single-token step. -/
theorem path_peekOffset {c : TokenCursor} {x : Path} {d : TokenCursor} (hc : c.peekOffset = 1)
    (h : path ctx c = .ok (x, d)) : d.peekOffset = 1 := by
  simp only [path] at h
  obtain ⟨⟨attr, d₁⟩, hd₁, h⟩ := bind_eq_ok.mp h
  dsimp only at h
  split at h
  · cases h
    exact attributePath_peekOffset hc hd₁
  split at h
  · obtain ⟨_, hthrow, -⟩ := bind_eq_ok.mp h
    cases hthrow
  obtain ⟨e, -, h⟩ := bind_eq_ok.mp h
  obtain ⟨⟨filter, f⟩, -, h⟩ := bind_eq_ok.mp h
  obtain ⟨g, hg, h⟩ := bind_eq_ok.mp h
  dsimp only at h
  split at h
  · obtain ⟨_, hthrow, -⟩ := bind_eq_ok.mp h
    cases hthrow
  split at h
  · cases h
    exact expect_peekOffset hg
  -- past the `.`, the cursor has moved on once or twice
  split at h
  · split at h
    · cases h
      rfl
    · cases h
      rfl
  · cases h
    rfl

/-- Every production started at peek offset 1 returns at peek offset 1. -/
theorem Production.run_peekOffset (p : Production) {c d : TokenCursor} (hc : c.peekOffset = 1)
    (h : p.run ctx c = .ok d) : d.peekOffset = 1 := by
  -- every production hands back the cursor of the result it maps
  cases p <;> obtain ⟨⟨x, e⟩, he, rfl⟩ := Grammar.except_map_eq_ok.mp h
  case expression => exact expression_peekOffset he
  case term => exact term_peekOffset he
  case factor => exact factor_peekOffset he
  case negatedExpression => exact negatedExpression_peekOffset he
  case groupedExpression => exact groupedExpression_peekOffset he
  case valuePath => exact valuePath_peekOffset he
  case comparison => exact comparison_peekOffset he
  case path => exact path_peekOffset hc he
  case attributePath => exact attributePath_peekOffset hc he

/-- A call made from a production started at peek offset 1 starts at peek offset 1: it starts
where its caller started, or after a single-token step or a look-ahead. -/
theorem Calls.peekOffset {a b : Call} (h : Calls ctx a b) (ha : a.2.peekOffset = 1) :
    b.2.peekOffset = 1 := by
  cases h with
  | expressionTerm | termFactor | factorNegated | factorGrouped | valuePathAttribute
    | comparisonAttribute | pathAttribute => exact ha
  | expressionOr _ _ hop => exact logicalOperator_peekOffset hop
  | termAnd _ _ hop => exact logicalOperator_peekOffset hop
  | @factorValuePath c c' _ _ hahead =>
    have hc' : (valuePathIncoming c).2 = c' := congrArg Prod.snd hahead
    rw [← hc']
    exact valuePathIncoming_peekOffset c
  | @factorComparison c _ c' _ _ hahead =>
    have hc' : (valuePathIncoming c).2 = c' := congrArg Prod.snd hahead
    rw [← hc']
    exact valuePathIncoming_peekOffset c
  | negatedGrouped _ hspace => exact expect_peekOffset hspace
  | groupedInner hopen => exact expect_peekOffset hopen
  | valuePathFilter _ hopen => exact expect_peekOffset hopen
  | pathFilter _ _ hopen => exact expect_peekOffset hopen
  | attributeNext => rfl

theorem Calls.reachable_peekOffset {a b : Call} (h : ReflTransGen (Calls ctx) a b)
    (ha : a.2.peekOffset = 1) : b.2.peekOffset = 1 := by
  induction h with
  | refl => exact ha
  | tail _ hbc ih => exact hbc.peekOffset ih

/-! ### What the look-aheads see -/

theorem toList_drop_of_getElem? {α : Type} {a : Array α} {i : Nat} {t : α} (h : a[i]? = some t) :
    a.toList.drop i = t :: a.toList.drop (i + 1) := by
  obtain ⟨hi, rfl⟩ := Array.getElem?_eq_some_iff.mp h
  rw [List.drop_eq_getElem_cons (by simpa using hi)]
  simp

theorem toList_drop_of_getElem?_none {α : Type} {a : Array α} {i : Nat} (h : a[i]? = none) :
    a.toList.drop i = [] :=
  List.drop_eq_nil_of_le (by simpa using Array.getElem?_eq_none_iff.mp h)

/-- `peekWhile kinds` answers with the first token, from the peek offset on, whose kind is not
one of `kinds`. -/
theorem peekWhile_snd (c : TokenCursor) (kinds : List TokenKind) :
    (c.peekWhile kinds).2 =
      (c.tokens.toList.drop (c.position + c.peekOffset)).find? (fun t => !t.isAny kinds) := by
  fun_induction Cursor.peekWhile c kinds with
  | case1 c t ht hany _ ih =>
    rw [ih, toList_drop_of_getElem? ht]
    simp [hany, Nat.add_assoc]
  | case2 c t ht hany =>
    rw [toList_drop_of_getElem? ht]
    simp [hany]
  | case3 c ht =>
    rw [toList_drop_of_getElem?_none ht]
    rfl

theorem atLogicalOperator_fst {c : TokenCursor} (hc : c.peekOffset = 1) (w : String) :
    (atLogicalOperator c w).1 =
      (c.token.any (·.kind == .whitespace) && c.lookAhead.any (·.isName w)) := by
  unfold atLogicalOperator
  split
  · rename_i hspace
    simp [hspace, Cursor.glimpse, Cursor.peek, Cursor.lookAhead, hc]
  · rename_i hspace
    simp [hspace]

theorem valuePathIncoming_fst {c : TokenCursor} (hc : c.peekOffset = 1) :
    (valuePathIncoming c).1 =
      ((c.tokens.toList.drop (c.position + 1)).find? (fun t => !t.isAny lookaheadKinds)).any
        (·.kind == .openBracket) := by
  simp only [valuePathIncoming, peekWhile_snd, hc]

/-- Along any run of the descent from a new cursor, the peek offset is 1 whenever a production
starts and whenever it returns. At offset 1 the test for `and` and `or` holds exactly when the
current token is whitespace and the next one is the name, and the test for a value path exactly
when the first token after the current one that is neither a name nor a dot is `[`. -/
theorem peek_offset_stays_one (ctx : Context) (tokens : Array (Token TokenKind))
    (root : Production) :
    (∀ {p : Production} {c : TokenCursor},
      ReflTransGen (Calls ctx) (root, Cursor.new tokens) (p, c) →
        c.peekOffset = 1 ∧ ∀ {d : TokenCursor}, p.run ctx c = .ok d → d.peekOffset = 1) ∧
    (∀ {c : TokenCursor} (w : String), c.peekOffset = 1 →
      ((atLogicalOperator c w).1 = true ↔
        (∃ t, c.token = some t ∧ t.kind = .whitespace) ∧
          ∃ n, c.lookAhead = some n ∧ n.isName w = true)) ∧
    (∀ {c : TokenCursor}, c.peekOffset = 1 →
      ((valuePathIncoming c).1 = true ↔
        ∃ t, (c.tokens.toList.drop (c.position + 1)).find? (fun t => !t.isAny lookaheadKinds) =
          some t ∧ t.kind = .openBracket)) := by
  refine ⟨fun hreach => ?_, fun w hc => ?_, fun hc => ?_⟩
  · have hc := Calls.reachable_peekOffset hreach rfl
    exact ⟨hc, fun h => Production.run_peekOffset _ hc h⟩
  · rw [atLogicalOperator_fst hc]
    simp [Option.any_eq_true]
  · rw [valuePathIncoming_fst hc]
    simp [Option.any_eq_true]

end ScimFilter.CursorGrammar
