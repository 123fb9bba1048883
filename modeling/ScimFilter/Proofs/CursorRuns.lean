import ScimFilter.Cursor
import ScimFilter.Lexer.Scim
import Mathlib
/-!
Runs of a token cursor. A run applies any sequence of the cursor's operations to a new cursor.
Along every run the position stays within the tokens (`run_position_le`). Skipping stops at the
first token that fails its test (`skipWhile_firstFailing`, `skipUntil_firstFailing`), and
`peekWhile` answers with the first such token from the peek offset on (`peekWhile_spec`).

Every operation that moves the position sets the peek offset back to 1, except
`resetPosition`, which keeps it (`apply_peekOffset_of_moved`). From such a reset, and from
`resetPeek` or `glimpse`, the `k`-th peek sees the token `k` places after the position
(`peek_iterate`). After a `resetPosition` the count goes on from the peeks made before it
(`peek_after_resetPosition`).
-/

namespace ScimFilter.Cursor

variable {κ : Type}

/-! ### First failing tokens -/

/-- Index `j` is the first index from `i` on whose token fails `p`; past the end there is no
token, so the first index past the end qualifies. -/
def FirstFailing (tokens : Array (Token κ)) (p : Token κ → Bool) (i j : Nat) : Prop :=
  i ≤ j ∧ (∀ m, i ≤ m → m < j → ∃ t, tokens[m]? = some t ∧ p t = true) ∧
    ∀ t, tokens[j]? = some t → p t = false

namespace FirstFailing

variable {tokens : Array (Token κ)} {p : Token κ → Bool} {i j : Nat}

theorem here (h : ∀ t, tokens[i]? = some t → p t = false) : FirstFailing tokens p i i :=
  ⟨Nat.le_refl i, fun _ h1 h2 => absurd h2 (Nat.not_lt.mpr h1), h⟩

/-- Past the end there is no token to fail, and the search stops there. -/
theorem of_none (h : tokens[i]? = none) : FirstFailing tokens p i i :=
  here fun _ ht => by rw [h] at ht; cases ht

/-- A token that fails the test is where the search stops. -/
theorem of_fail {t : Token κ} (ht : tokens[i]? = some t) (hp : p t = false) :
    FirstFailing tokens p i i :=
  here fun _ ht' => by rw [ht] at ht'; cases ht'; exact hp

/-- A token that passes the test is stepped over. -/
theorem step {t : Token κ} (ht : tokens[i]? = some t) (hp : p t = true)
    (h : FirstFailing tokens p (i + 1) j) : FirstFailing tokens p i j := by
  obtain ⟨hij, hpass, hfail⟩ := h
  refine ⟨by omega, fun m him hmj => ?_, hfail⟩
  rcases Nat.eq_or_lt_of_le him with rfl | him'
  · exact ⟨t, ht, hp⟩
  · exact hpass m him' hmj

/-- Starting within the tokens, the first failing index is at most the end. -/
theorem le_size (hi : i ≤ tokens.size) (h : FirstFailing tokens p i j) : j ≤ tokens.size := by
  refine Nat.not_lt.mp fun hj => ?_
  obtain ⟨t, ht, -⟩ := h.2.1 tokens.size hi hj
  simp at ht

end FirstFailing

theorem moveNext_position (c : Cursor κ) :
    c.moveNext.1.position = if c.position < c.tokens.size then c.position + 1 else c.position :=
  rfl

theorem position_lt_of_token {c : Cursor κ} {t : Token κ} (h : c.token = some t) :
    c.position < c.tokens.size :=
  (Array.getElem?_eq_some_iff.mp h).1

/-- A skip that moves on from a current token and then stops, or skips further, has moved the
position forward and set the peek offset back to 1. -/
theorem moved_of_moveNext {c d : Cursor κ} (hlt : c.position < c.tokens.size)
    (h : d = c.moveNext.1 ∨ c.moveNext.1.position < d.position ∧ d.peekOffset = 1) :
    c.position < d.position ∧ d.peekOffset = 1 := by
  rcases h with rfl | ⟨hpos, hpeek⟩
  · simp [moveNext, hlt]
  · simp only [moveNext_position, if_pos hlt] at hpos
    exact ⟨by omega, hpeek⟩

/-- Each peek looks one token further. -/
theorem peek_iterate (c : Cursor κ) (k : Nat) :
    (fun d : Cursor κ => d.peek.1)^[k] c = { c with peekOffset := c.peekOffset + k } := by
  induction k generalizing c with
  | zero => rfl
  | succ k ih =>
    rw [Function.iterate_succ_apply, ih]
    simp only [peek, Cursor.mk.injEq, true_and]
    omega

/-- From a peek offset of 1, the `k + 1`-th peek answers with the token `k + 1` places after
the position. -/
theorem peek_after_reset (c : Cursor κ) (h : c.peekOffset = 1) (k : Nat) :
    ((fun d : Cursor κ => d.peek.1)^[k] c).peek.2 = c.tokens[c.position + (k + 1)]? := by
  rw [peek_iterate, peek, h, Nat.add_comm 1 k]

variable [BEq κ]

/-! ### Operations and runs -/

/-- The operations of a cursor, with their arguments. -/
inductive Op (κ : Type) where
  | token
  | lookAhead
  | position
  | isAtEnd
  | moveNext
  | reset
  | resetPosition (n : Nat)
  | resetPeek
  | skipWhile (kinds : List κ)
  | skipUntil (kind : κ)
  | peek
  | peekWhile (kinds : List κ)
  | glimpse
  | isToken (kind : κ)
  | isNextToken (kind : κ)
  | isTokenAny (kinds : List κ)
  | isNextTokenAny (kinds : List κ)

/-- The cursor after an operation; the queries leave it as it is. -/
def Op.apply : Op κ → Cursor κ → Cursor κ
  | .moveNext, c => c.moveNext.1
  | .reset, c => c.reset
  | .resetPosition n, c => c.resetPosition n
  | .resetPeek, c => c.resetPeek
  | .skipWhile kinds, c => c.skipWhile kinds
  | .skipUntil kind, c => c.skipUntil kind
  | .peek, c => c.peek.1
  | .peekWhile kinds, c => (c.peekWhile kinds).1
  | .glimpse, c => c.glimpse.1
  | _, c => c

def run (c : Cursor κ) (ops : List (Op κ)) : Cursor κ :=
  ops.foldl (fun c o => o.apply c) c

theorem run_cons (c : Cursor κ) (o : Op κ) (ops : List (Op κ)) :
    run c (o :: ops) = run (o.apply c) ops := rfl

/-! ### Skipping and peeking -/

/-- Skipping either leaves the cursor as it is, or moves it forward and sets the peek offset
back to 1. -/
theorem skipWhile_cases (c : Cursor κ) (kinds : List κ) :
    c.tokens = (c.skipWhile kinds).tokens ∧ (c.skipWhile kinds = c ∨
      c.position < (c.skipWhile kinds).position ∧ (c.skipWhile kinds).peekOffset = 1) := by
  fun_induction skipWhile c kinds with
  | case1 c t ht _ _ ih => exact ⟨ih.1, .inr (moved_of_moveNext (position_lt_of_token ht) ih.2)⟩
  | case2 => exact ⟨rfl, .inl rfl⟩
  | case3 => exact ⟨rfl, .inl rfl⟩

theorem skipUntil_cases (c : Cursor κ) (kind : κ) :
    c.tokens = (c.skipUntil kind).tokens ∧ (c.skipUntil kind = c ∨
      c.position < (c.skipUntil kind).position ∧ (c.skipUntil kind).peekOffset = 1) := by
  fun_induction skipUntil c kind with
  | case1 => exact ⟨rfl, .inl rfl⟩
  | case2 c t ht _ _ ih => exact ⟨ih.1, .inr (moved_of_moveNext (position_lt_of_token ht) ih.2)⟩
  | case3 => exact ⟨rfl, .inl rfl⟩

/-- `skipWhile kinds` stops at the first token from the position on whose kind is not one of
`kinds`, or at the end. -/
theorem skipWhile_firstFailing (c : Cursor κ) (kinds : List κ) :
    FirstFailing c.tokens (·.isAny kinds) c.position (c.skipWhile kinds).position := by
  fun_induction skipWhile c kinds with
  | case1 c t ht hany _ ih =>
    have hlt := position_lt_of_token ht
    rw [moveNext_position, if_pos hlt] at ih
    exact FirstFailing.step ht hany ih
  | case2 c t ht hany => exact FirstFailing.of_fail ht (by simpa using hany)
  | case3 c ht => exact FirstFailing.of_none ht

/-- `skipUntil kind` stops at the first token from the position on whose kind is `kind`, or at
the end. -/
theorem skipUntil_firstFailing (c : Cursor κ) (kind : κ) :
    FirstFailing c.tokens (fun t => !(t.kind == kind)) c.position (c.skipUntil kind).position := by
  fun_induction skipUntil c kind with
  | case1 c t ht hk => exact FirstFailing.of_fail ht (by simp [hk])
  | case2 c t ht hk _ ih =>
    have hlt := position_lt_of_token ht
    rw [moveNext_position, if_pos hlt] at ih
    exact FirstFailing.step ht (by simpa using hk) ih
  | case3 c ht => exact FirstFailing.of_none ht

/-- `peekWhile kinds` answers with the first token from the peek offset on whose kind is not
one of `kinds` (none past the end), and leaves the peek offset just after it. -/
theorem peekWhile_spec (c : Cursor κ) (kinds : List κ) :
    ∃ j, FirstFailing c.tokens (·.isAny kinds) (c.position + c.peekOffset) j ∧
      (c.peekWhile kinds).2 = c.tokens[j]? ∧
      (c.peekWhile kinds).1 = { c with peekOffset := j + 1 - c.position } := by
  fun_induction peekWhile c kinds with
  | case1 c t ht hany _ ih =>
    obtain ⟨j, hj, hres, hcur⟩ := ih
    refine ⟨j, FirstFailing.step ht hany (by simpa [Nat.add_assoc] using hj), hres, ?_⟩
    rw [hcur]
  | case2 c t ht hany =>
    refine ⟨_, FirstFailing.of_fail ht (by simpa using hany), ht.symm, ?_⟩
    simp only [Cursor.mk.injEq, true_and]
    omega
  | case3 c ht =>
    refine ⟨_, FirstFailing.of_none ht, ht.symm, ?_⟩
    simp only [Cursor.mk.injEq, true_and]
    omega

/-! ### What one operation does -/

theorem Op.apply_tokens (o : Op κ) (c : Cursor κ) : (o.apply c).tokens = c.tokens := by
  cases o with
  | skipWhile kinds => exact (skipWhile_cases c kinds).1.symm
  | skipUntil kind => exact (skipUntil_cases c kind).1.symm
  | peekWhile kinds =>
    obtain ⟨j, -, -, hcur⟩ := peekWhile_spec c kinds
    simp [Op.apply, hcur]
  | _ => rfl

/-- No operation takes the position past the end. -/
theorem Op.apply_position_le (o : Op κ) {c : Cursor κ} (h : c.position ≤ c.tokens.size) :
    (o.apply c).position ≤ (o.apply c).tokens.size := by
  rw [Op.apply_tokens]
  cases o with
  | moveNext =>
    simp only [Op.apply, moveNext_position]
    split <;> omega
  | reset => exact Nat.zero_le _
  | resetPosition n => exact Nat.min_le_right n _
  | skipWhile kinds => exact (skipWhile_firstFailing c kinds).le_size h
  | skipUntil kind => exact (skipUntil_firstFailing c kind).le_size h
  | peekWhile kinds =>
    obtain ⟨j, -, -, hcur⟩ := peekWhile_spec c kinds
    simpa [Op.apply, hcur] using h
  | _ => exact h

/-- An operation that moves the position sets the peek offset back to 1, unless it is
`resetPosition`. -/
theorem Op.apply_peekOffset_of_moved (o : Op κ) (c : Cursor κ)
    (hmoved : (o.apply c).position ≠ c.position) (hne : ∀ n, o ≠ .resetPosition n) :
    (o.apply c).peekOffset = 1 := by
  cases o with
  | moveNext | reset | resetPeek => rfl
  | resetPosition n => exact absurd rfl (hne n)
  | skipWhile kinds =>
    rcases (skipWhile_cases c kinds).2 with heq | ⟨-, hpeek⟩
    · exact absurd (by simp only [Op.apply, heq]) hmoved
    · exact hpeek
  | skipUntil kind =>
    rcases (skipUntil_cases c kind).2 with heq | ⟨-, hpeek⟩
    · exact absurd (by simp only [Op.apply, heq]) hmoved
    · exact hpeek
  | peekWhile kinds =>
    obtain ⟨j, -, -, hcur⟩ := peekWhile_spec c kinds
    exact absurd (by simp [Op.apply, hcur]) hmoved
  | _ => exact absurd rfl hmoved

/-- `resetPosition` moves the position and keeps the peek offset. -/
theorem Op.apply_resetPosition (n : Nat) (c : Cursor κ) :
    ((Op.resetPosition n).apply c).position = min n c.tokens.size ∧
      ((Op.resetPosition n).apply c).peekOffset = c.peekOffset :=
  ⟨rfl, rfl⟩

/-! ### Runs -/

/-- Along every run from a new cursor the position stays within the tokens. -/
theorem run_position_le (tokens : Array (Token κ)) (ops : List (Op κ)) :
    (run (new tokens) ops).tokens = tokens ∧
      (run (new tokens) ops).position ≤ (run (new tokens) ops).tokens.size := by
  -- the invariant is carried from any cursor that satisfies it
  suffices ∀ c : Cursor κ, c.tokens = tokens → c.position ≤ c.tokens.size →
      (run c ops).tokens = tokens ∧ (run c ops).position ≤ (run c ops).tokens.size from
    this (new tokens) rfl (Nat.zero_le _)
  induction ops with
  | nil => exact fun c htok hle => ⟨htok, hle⟩
  | cons o ops ih =>
    intro c htok hle
    rw [run_cons]
    exact ih (o.apply c) ((o.apply_tokens c).trans htok) (o.apply_position_le hle)

/-- What every run of a cursor over any tokens guarantees. The position never passes the end;
the current token and the next one are those at the position and after it; skipping stops at
the first token that fails its test; `peekWhile` answers with the first token from the peek
offset on whose kind is not listed. After an operation other than `resetPosition` that moves
the position, and after `resetPeek` and `glimpse`, the `k + 1`-th peek sees the token `k + 1`
places after the position. -/
theorem run_laws (tokens : Array (Token κ)) (ops : List (Op κ)) :
    let c := run (new tokens) ops
    c.tokens = tokens ∧ c.position ≤ tokens.size ∧
      c.token = tokens[c.position]? ∧ c.lookAhead = tokens[c.position + 1]? ∧
      (∀ kinds, FirstFailing tokens (·.isAny kinds) c.position (c.skipWhile kinds).position) ∧
      (∀ kind, FirstFailing tokens (fun t => !(t.kind == kind)) c.position
        (c.skipUntil kind).position) ∧
      (∀ kinds, ∃ j, FirstFailing tokens (·.isAny kinds) (c.position + c.peekOffset) j ∧
        (c.peekWhile kinds).2 = tokens[j]?) ∧
      (∀ (o : Op κ) (k : Nat),
        ((o.apply c).position ≠ c.position ∧ (∀ n, o ≠ .resetPosition n)) ∨ o = .resetPeek ∨
            o = .glimpse →
          ((fun d : Cursor κ => d.peek.1)^[k] (o.apply c)).peek.2 =
            tokens[(o.apply c).position + (k + 1)]?) := by
  intro c
  obtain ⟨htok, hle⟩ := run_position_le tokens ops
  refine ⟨htok, htok ▸ hle, by rw [← htok]; rfl, by rw [← htok]; rfl, fun kinds => ?_,
    fun kind => ?_, fun kinds => ?_, fun o k hreset => ?_⟩
  · exact htok ▸ skipWhile_firstFailing c kinds
  · exact htok ▸ skipUntil_firstFailing c kind
  · obtain ⟨j, hj, hres, -⟩ := peekWhile_spec c kinds
    exact ⟨j, htok ▸ hj, htok ▸ hres⟩
  · have hone : (o.apply c).peekOffset = 1 := by
      rcases hreset with ⟨hmoved, hne⟩ | rfl | rfl
      · exact o.apply_peekOffset_of_moved c hmoved hne
      · rfl
      · rfl
    rw [peek_after_reset _ hone, Op.apply_tokens, htok]

/-- After `moveNext` and a peek on `a b c`, moving back to the first token with `resetPosition`
keeps the peek offset of 2: the next peek answers with `b`, two tokens on, not with the blank
after `a`. -/
theorem peek_after_resetPosition :
    ∃ ts, Lexer.scimScan .v2 "a b c" = .ok ts ∧
      let c := run (new ts.toArray) [.moveNext, .peek]
      let c' := (Op.resetPosition 0).apply c
      c'.position ≠ c.position ∧ c'.peek.2 ≠ ts.toArray[c'.position + 1]? :=
  ⟨[⟨.name, "a", 0, 0⟩, ⟨.whitespace, " ", 1, 1⟩, ⟨.name, "b", 2, 2⟩, ⟨.whitespace, " ", 3, 3⟩,
    ⟨.name, "c", 4, 4⟩], by decide +kernel, by decide⟩

end ScimFilter.Cursor
