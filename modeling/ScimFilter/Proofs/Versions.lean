import ScimFilter.Proofs.Rendering
import Mathlib
/-!
The two versions of the grammar. The scanner of version 1 has the rules of version 2 but the two
bracket rules, so at every place of a text it takes what version 2 takes unless that is a
bracket, where it takes nothing (`firstMatch_v1`). It reads the tokens version 2 reads up to the
first bracket, and stops there (`readTokens_v1`). Over tokens with no `[` the descent reads alike
in both versions, since the version decides only whether an attribute path followed by `[` opens
a value path (`descent_version`).
-/

namespace ScimFilter.Lexer

/-! ### What a scan reads -/

variable {κ : Type}

/-- The tokens a scan reads from the text `cs`, and the text left where it stops: nothing when it
reads the whole text, else a text at whose start no rule takes anything. -/
def readTokens (rules : List (Rule κ)) (cs : List Char) (offset position : Nat) :
    List (Token κ) × List Char :=
  if cs.isEmpty then ([], []) else
  match h : firstMatch rules cs with
  | none => ([], cs)
  | some (kind, n) =>
    let text := String.ofList (cs.take n)
    let next := readTokens rules (cs.drop n) (offset + text.utf8ByteSize) (position + 1)
    (⟨kind, text, offset, position⟩ :: next.1, next.2)
termination_by cs.length
decreasing_by exact length_drop_lt_of_firstMatch h

/-- A scan succeeds with the tokens it reads when it reads the whole text, and otherwise fails
where it stops. -/
theorem scanFrom_eq_readTokens (rules : List (Rule κ)) (cs : List Char) (offset position : Nat) :
    scanFrom rules cs offset position =
      if (readTokens rules cs offset position).2 = [] then
        .ok (readTokens rules cs offset position).1
      else .error ⟨offset + byteLength (readTokens rules cs offset position).1,
        String.ofList ((readTokens rules cs offset position).2.take previewLength)⟩ := by
  fun_induction readTokens rules cs offset position with
  | case1 cs o p hempty =>
    rw [scanFrom, if_pos hempty]
    rfl
  | case2 cs o p hempty hm =>
    have hne : cs ≠ [] := fun h => by simp [h] at hempty
    rw [scanFrom, if_neg hempty]
    split
    · simp [hne, byteLength]
    · rename_i heq
      rw [hm] at heq
      cases heq
  | case3 cs o p hempty k n hm text next ih =>
    rw [scanFrom, if_neg hempty]
    split
    · rename_i heq
      rw [hm] at heq
      cases heq
    · rename_i k' n' heq
      rw [hm] at heq
      cases heq
      dsimp only
      rw [ih]
      split
      · rfl
      · simp [Except.map, byteLength_cons, next, text, Nat.add_assoc]

theorem joinedText_readTokens (rules : List (Rule κ)) (cs : List Char) (offset position : Nat) :
    joinedText (readTokens rules cs offset position).1 ++ (readTokens rules cs offset position).2 =
      cs := by
  fun_induction readTokens rules cs offset position with
  | case1 cs o p hempty => simp [joinedText, List.isEmpty_iff.mp hempty]
  | case2 cs o p hempty hm => simp [joinedText]
  | case3 cs o p hempty k n hm text next ih =>
    simp only [joinedText_cons, List.append_assoc, next, ih, text, String.toList_ofList,
      List.take_append_drop]

/-- Every token a scan reads has a text. -/
theorem text_ne_of_mem_readTokens {rules : List (Rule κ)} {cs : List Char} {offset position : Nat}
    {t : Token κ} (ht : t ∈ (readTokens rules cs offset position).1) : t.text ≠ "" := by
  fun_induction readTokens rules cs offset position with
  | case1 => simp at ht
  | case2 => simp at ht
  | case3 cs o p hempty k n hm text next ih =>
    simp only [List.mem_cons] at ht
    rcases ht with rfl | ht
    · have hb := firstMatch_bounds rules cs hm
      intro h
      have := congrArg String.length h
      simp [text, String.length_ofList] at this
      rcases this with h0 | rfl
      · omega
      · simp at hb
        omega
    · exact ih ht

/-- A token a scan reads stands at the byte length of the texts before it. -/
theorem offset_of_readTokens {rules : List (Rule κ)} {cs : List Char} {offset position : Nat}
    {ts us : List (Token κ)} {t : Token κ}
    (h : (readTokens rules cs offset position).1 = ts ++ t :: us) :
    t.offset = offset + byteLength ts := by
  fun_induction readTokens rules cs offset position generalizing ts with
  | case1 => cases ts <;> simp at h
  | case2 => cases ts <;> simp at h
  | case3 cs o p hempty k n hm text next =>
    rename_i ih
    cases ts with
    | nil =>
      obtain ⟨rfl, -⟩ := List.cons.inj h
      simp [byteLength]
    | cons u ts =>
      obtain ⟨rfl, h'⟩ := List.cons.inj h
      rw [ih h', byteLength_cons, Nat.add_assoc]

theorem firstMatch_append (rs rs' : List (Rule κ)) (cs : List Char) :
    firstMatch (rs ++ rs') cs = (firstMatch rs cs).or (firstMatch rs' cs) := by
  induction rs with
  | nil => simp [firstMatch]
  | cons r rs ih =>
    simp only [List.cons_append, firstMatch]
    split
    · split
      · rfl
      · exact ih
    · exact ih

/-- The kind of what the first matching rule takes is the kind of one of the rules. -/
theorem firstMatch_kind_mem {rules : List (Rule κ)} {cs : List Char} {k : κ} {n : Nat}
    (h : firstMatch rules cs = some (k, n)) : k ∈ rules.map Rule.kind := by
  obtain ⟨pre, r, post, hrules, -, rfl, -⟩ := (firstMatch_eq_some_iff rules cs k n).mp h
  exact List.mem_map_of_mem (by simp [hrules])

theorem byteLength_append (ts us : List (Token κ)) :
    byteLength (ts ++ us) = byteLength ts + byteLength us := by
  induction ts with
  | nil => simp [byteLength]
  | cons t ts ih => rw [List.cons_append, byteLength_cons, byteLength_cons, ih, Nat.add_assoc]

/-! ### Version 1 stops at the first bracket -/

/-- The kinds of the two brackets, which only version 2 scans. -/
def bracketKinds : List TokenKind := [.openBracket, .closeBracket]

/-- At every place of a text, version 1 takes what version 2 takes unless that is a bracket,
where version 1 takes nothing. -/
theorem firstMatch_v1 (cs : List Char) :
    firstMatch (scimRules .v1) cs =
      (firstMatch (scimRules .v2) cs).filter fun m => !bracketKinds.contains m.1 := by
  have hsplit : scimRules .v2 =
      scimRules .v1 ++ [single .openBracket '[', single .closeBracket ']'] := rfl
  rw [hsplit, firstMatch_append]
  cases h1 : firstMatch (scimRules .v1) cs with
  | some m =>
    obtain ⟨k, n⟩ := m
    have hk := firstMatch_kind_mem h1
    have hb : k ∉ bracketKinds := by
      revert hk
      cases k <;> decide
    simp [Option.filter, hb]
  | none =>
    cases h2 : firstMatch [single .openBracket '[', single .closeBracket ']'] cs with
    | none => rfl
    | some m =>
      obtain ⟨k, n⟩ := m
      have hk := firstMatch_kind_mem h2
      have hb : k ∈ bracketKinds := by
        revert hk
        cases k <;> decide
      simp [Option.filter, hb]

/-- Version 1 reads the tokens that version 2 reads up to the first bracket, and stops there. -/
theorem readTokens_v1 (cs : List Char) (offset position : Nat) :
    readTokens (scimRules .v1) cs offset position =
      ((readTokens (scimRules .v2) cs offset position).1.takeWhile (!·.isAny bracketKinds),
        joinedText ((readTokens (scimRules .v2) cs offset position).1.dropWhile
          (!·.isAny bracketKinds)) ++ (readTokens (scimRules .v2) cs offset position).2) := by
  fun_induction readTokens (scimRules .v2) cs offset position with
  | case1 cs o p hempty =>
    rw [readTokens, if_pos hempty]
    rfl
  | case2 cs o p hempty hm =>
    rw [readTokens, if_neg hempty]
    split
    · rfl
    · rename_i k n heq
      rw [firstMatch_v1, hm] at heq
      cases heq
  | case3 cs o p hempty k n hm text next ih =>
    rw [readTokens, if_neg hempty]
    by_cases hk : k ∈ bracketKinds
    · -- version 2 takes a bracket here, which version 1 does not take
      have hnone : firstMatch (scimRules .v1) cs = none := by
        simp [firstMatch_v1, hm, Option.filter, hk]
      split
      · have hall :=
          joinedText_readTokens (scimRules .v2) (cs.drop n) (o + text.utf8ByteSize) (p + 1)
        simp [Token.isAny, hk, joinedText_cons, next, hall, text]
      · rename_i heq
        rw [hnone] at heq
        cases heq
    · have hsome : firstMatch (scimRules .v1) cs = some (k, n) := by
        simp [firstMatch_v1, hm, Option.filter, hk]
      split
      · rename_i heq
        rw [hsome] at heq
        cases heq
      · rename_i k' n' heq
        rw [hsome] at heq
        cases heq
        simp [Token.isAny, hk, ih, next, text]

variable {s : String}

theorem scimScan_eq_readTokens (v : Version) (s : String) :
    scimScan v s =
      if (readTokens (scimRules v) s.toList 0 0).2 = [] then
        .ok (readTokens (scimRules v) s.toList 0 0).1
      else .error ⟨byteLength (readTokens (scimRules v) s.toList 0 0).1,
        String.ofList ((readTokens (scimRules v) s.toList 0 0).2.take previewLength)⟩ := by
  rw [scimScan, scan, scanFrom_eq_readTokens, Nat.zero_add]

/-- Where version 2 reads no bracket, version 1 scans alike. -/
theorem scimScan_v1_of_bracketFree
    (h : ∀ t ∈ (readTokens (scimRules .v2) s.toList 0 0).1, t.kind ∉ bracketKinds) :
    scimScan .v1 s = scimScan .v2 s := by
  have hall : ∀ t ∈ (readTokens (scimRules .v2) s.toList 0 0).1,
      (!t.isAny bracketKinds) = true := by
    intro t ht
    simpa [Token.isAny] using h t ht
  rw [scimScan_eq_readTokens, scimScan_eq_readTokens, readTokens_v1,
    List.takeWhile_eq_self_iff.mpr hall, List.dropWhile_eq_nil_iff.mpr hall]
  simp [joinedText]

/-- At the first bracket that version 2 reads, version 1 stops. -/
theorem scimScan_v1_of_bracket {ts us : List (Token TokenKind)} {t : Token TokenKind}
    (h : (readTokens (scimRules .v2) s.toList 0 0).1 = ts ++ t :: us)
    (hts : ∀ u ∈ ts, u.kind ∉ bracketKinds) (ht : t.kind ∈ bracketKinds) :
    scimScan .v1 s = .error ⟨t.offset, String.ofList
      ((joinedText (t :: us) ++ (readTokens (scimRules .v2) s.toList 0 0).2).take previewLength)⟩ := by
  have hall : ∀ u ∈ ts, (!u.isAny bracketKinds) = true := by
    intro u hu
    simpa [Token.isAny] using hts u hu
  have hstop : (!t.isAny bracketKinds) = false := by simpa [Token.isAny] using ht
  have htake : (ts ++ t :: us).takeWhile (!·.isAny bracketKinds) = ts := by
    rw [List.takeWhile_append_of_pos hall, List.takeWhile_cons, hstop]
    simp
  have hdrop : (ts ++ t :: us).dropWhile (!·.isAny bracketKinds) = t :: us := by
    rw [List.dropWhile_append_of_pos hall, List.dropWhile_cons, hstop]
    simp
  have htext : t.text ≠ "" :=
    text_ne_of_mem_readTokens (h ▸ List.mem_append_right ts List.mem_cons_self)
  have hne : joinedText (t :: us) ++ (readTokens (scimRules .v2) s.toList 0 0).2 ≠ [] := by
    simp [joinedText_cons, htext]
  have hoff := offset_of_readTokens h
  rw [scimScan_eq_readTokens, readTokens_v1, h, htake, hdrop, if_neg hne, hoff, Nat.zero_add]

end ScimFilter.Lexer


namespace ScimFilter.Grammar

/-! ### The descent without brackets -/

variable {n : Nat} {v w : Version}

theorem pathTexts_version (ts : Tokens) :
    pathTexts ⟨v, n⟩ ts = pathTexts ⟨w, n⟩ ts := by
  induction ts with
  | nil => rfl
  | cons t rest ih =>
    simp only [pathTexts, ih]
    rfl

theorem attributePath_version (ts : Tokens) :
    attributePath ⟨v, n⟩ ts = attributePath ⟨w, n⟩ ts := by
  simp only [attributePath, pathTexts_version (w := w)]
  rfl

theorem expect_version (k : TokenKind) (ts : Tokens) :
    expect ⟨v, n⟩ k ts = expect ⟨w, n⟩ k ts := rfl

theorem operator_version (ts : Tokens) : operator ⟨v, n⟩ ts = operator ⟨w, n⟩ ts := by
  cases ts <;> rfl

theorem compareValue_version (ts : Tokens) :
    compareValue ⟨v, n⟩ ts = compareValue ⟨w, n⟩ ts := by
  cases ts <;> rfl

theorem comparison_version (ts : Tokens) :
    comparison ⟨v, n⟩ ts = comparison ⟨w, n⟩ ts := by
  simp only [comparison, attributePath_version (w := w), operator_version (w := w),
    compareValue_version (w := w), expect_version (w := w)]

theorem logicalOperator_version (ts : Tokens) :
    logicalOperator ⟨v, n⟩ ts = logicalOperator ⟨w, n⟩ ts := rfl

/-- Without a `[` among the tokens, no value path is ahead. -/
theorem valuePathAhead_eq_false {ts : Tokens} (hno : ∀ t ∈ ts, t.kind ≠ .openBracket) :
    valuePathAhead ts = false := by
  cases h : ts.tail.find? (fun t => !t.isAny lookaheadKinds) with
  | none => simp [valuePathAhead, h]
  | some t =>
    have ht : t ∈ ts := List.mem_of_mem_tail (List.mem_of_find?_eq_some h)
    simp [valuePathAhead, h, hno t ht]

/-- Where no token opens a value filter, the descent reads alike in both versions: the version
decides only whether an attribute path followed by `[` opens a value path. -/
theorem descent_version :
    (∀ ts, (∀ t ∈ ts, t.kind ≠ .openBracket) → expression ⟨v, n⟩ ts = expression ⟨w, n⟩ ts) ∧
    (∀ ts, (∀ t ∈ ts, t.kind ≠ .openBracket) → term ⟨v, n⟩ ts = term ⟨w, n⟩ ts) ∧
    (∀ ts, (∀ t ∈ ts, t.kind ≠ .openBracket) → factor ⟨v, n⟩ ts = factor ⟨w, n⟩ ts) ∧
    (∀ ts, (∀ t ∈ ts, t.kind ≠ .openBracket) → group ⟨v, n⟩ ts = group ⟨w, n⟩ ts) := by
  apply expression.mutual_induct ⟨w, n⟩
  case case1 =>
    intro ts ihTerm ihExpr hno
    rw [expression, expression, ihTerm hno]
    cases e1 : term ⟨w, n⟩ ts with
    | error err => rfl
    | ok res =>
      obtain ⟨left, r1, h1⟩ := res
      obtain ⟨p1, hts, -⟩ := (descent_sound ⟨w, n⟩).2.1 ts left ⟨r1, h1⟩ e1
      simp only [ok_bind]
      split
      · rw [logicalOperator_version (w := w)]
        cases e2 : logicalOperator ⟨w, n⟩ r1 with
        | error err => rfl
        | ok res2 =>
          obtain ⟨r2, h2⟩ := res2
          obtain ⟨a, b, c, hr1, -⟩ := logicalOperator_eq_ok e2
          simp only [ok_bind]
          rw [ihExpr r1 h1 r2 h2 (fun t ht => hno t (by simp [hts, hr1, ht]))]
      · rfl
  case case2 =>
    intro ts ihFactor ihTerm hno
    rw [term, term, ihFactor hno]
    cases e1 : factor ⟨w, n⟩ ts with
    | error err => rfl
    | ok res =>
      obtain ⟨left, r1, h1⟩ := res
      obtain ⟨p1, hts, -⟩ := (descent_sound ⟨w, n⟩).2.2.1 ts left ⟨r1, h1⟩ e1
      simp only [ok_bind]
      split
      · rw [logicalOperator_version (w := w)]
        cases e2 : logicalOperator ⟨w, n⟩ r1 with
        | error err => rfl
        | ok res2 =>
          obtain ⟨r2, h2⟩ := res2
          obtain ⟨a, b, c, hr1, -⟩ := logicalOperator_eq_ok e2
          simp only [ok_bind]
          rw [ihTerm r1 h1 r2 h2 (fun t ht => hno t (by simp [hts, hr1, ht]))]
      · rfl
  case case3 =>
    intro ts hnot ihGroup hno
    rw [factor, factor, if_pos hnot, if_pos hnot, expect_version (w := w)]
    cases e1 : expect ⟨w, n⟩ .name ts with
    | error err => rfl
    | ok res =>
      obtain ⟨r1, h1⟩ := res
      obtain ⟨a, hts, -⟩ := expect_eq_ok e1
      simp only [ok_bind]
      rw [expect_version (w := w)]
      cases e2 : expect ⟨w, n⟩ .whitespace r1 with
      | error err => rfl
      | ok res2 =>
        obtain ⟨r2, h2⟩ := res2
        obtain ⟨b, hr1, -⟩ := expect_eq_ok e2
        simp only [ok_bind]
        rw [ihGroup r1 h1 r2 h2 (fun t ht => hno t (by simp [hts, hr1, ht]))]
  case case4 =>
    intro ts hnot hparen ihGroup hno
    rw [factor, factor, if_neg hnot, if_neg hnot, if_pos hparen, if_pos hparen, ihGroup hno]
  case case5 =>
    intro ts _ _ hvp _ hno
    simp [valuePathAhead_eq_false hno] at hvp
  case case6 =>
    intro ts hnot hparen _ hno
    have hvp : ∀ u : Version, ¬ (valuePathAhead ts && u.supportsValueFilters) = true := by
      simp [valuePathAhead_eq_false hno]
    rw [factor, factor, if_neg hnot, if_neg hnot, if_neg hparen, if_neg hparen, if_neg (hvp v),
      if_neg (hvp w), comparison_version (w := w)]
  case case7 =>
    intro ts ihExpr hno
    rw [group, group, expect_version (w := w)]
    cases e1 : expect ⟨w, n⟩ .openParen ts with
    | error err => rfl
    | ok res =>
      obtain ⟨r1, h1⟩ := res
      obtain ⟨a, hts, -⟩ := expect_eq_ok e1
      simp only [ok_bind]
      rw [ihExpr r1 h1 (fun t ht => hno t (by simp [hts, ht]))]
      -- the closing parenthesis is expected alike in both versions
      rfl

theorem filter_version {ts : Tokens} (hno : ∀ t ∈ ts, t.kind ≠ .openBracket) :
    filter ⟨v, n⟩ ts = filter ⟨w, n⟩ ts := by
  rw [filter, filter, descent_version.1 ts hno]
  rfl

mutual

/-- A grammar without value filters derives no value path. -/
theorem DerivesExpression.no_valuePath (hv : v.supportsValueFilters = false) {xs : List Lexeme}
    {e : Expression} : DerivesExpression v xs e → e.containsValuePath = false
  | .term d => by simp [Expression.containsValuePath, d.no_valuePath hv]
  | .or d1 d2 => by
    simp [Expression.containsValuePath, d1.no_valuePath hv, d2.no_valuePath hv]

theorem DerivesTerm.no_valuePath (hv : v.supportsValueFilters = false) {xs : List Lexeme}
    {t : Term} : DerivesTerm v xs t → t.containsValuePath = false
  | .factor d => by simp [Term.containsValuePath, d.no_valuePath hv]
  | .and d1 d2 => by simp [Term.containsValuePath, d1.no_valuePath hv, d2.no_valuePath hv]

theorem DerivesFactor.no_valuePath (hv : v.supportsValueFilters = false) {xs : List Lexeme}
    {f : Factor} : DerivesFactor v xs f → f.containsValuePath = false
  | .not d => by simp [Factor.containsValuePath, d.no_valuePath hv]
  | .group d => by simp [Factor.containsValuePath, d.no_valuePath hv]
  | .valuePath hv' .. => absurd hv' (by simp [hv])
  | .present .. => rfl
  | .compare .. => rfl

end

end ScimFilter.Grammar

namespace ScimFilter

open Grammar Lexer

/-! ### Reading in version 1 -/

/-- A token list holds no bracket, or a first one. -/
theorem bracketFree_or_first (vs : List (Token TokenKind)) :
    (∀ u ∈ vs, u.kind ∉ bracketKinds) ∨ ∃ ts t us, vs = ts ++ t :: us ∧
      (∀ u ∈ ts, u.kind ∉ bracketKinds) ∧ t.kind ∈ bracketKinds := by
  -- the first bracket stands where the run of tokens that are not brackets ends
  have hsplit := List.takeWhile_append_dropWhile (p := (!·.isAny bracketKinds)) (l := vs)
  cases hd : vs.dropWhile (!·.isAny bracketKinds) with
  | nil =>
    left
    intro u hu
    simpa [Token.isAny] using List.dropWhile_eq_nil_iff.mp hd u hu
  | cons t us =>
    right
    have ht := List.head_dropWhile_not (!·.isAny bracketKinds) (l := vs) (by simp [hd])
    rw [hd] at hsplit
    simp only [hd, List.head_cons] at ht
    refine ⟨_, t, us, hsplit.symm, fun u hu => ?_, ?_⟩
    · simpa [Token.isAny] using List.mem_takeWhile_imp hu
    · simpa [Token.isAny] using ht

variable {s : String}

theorem readTokens_of_scimScan_ok {v : Version} {ts : List (Token TokenKind)}
    (h : scimScan v s = .ok ts) : readTokens (scimRules v) s.toList 0 0 = (ts, []) := by
  rw [scimScan_eq_readTokens] at h
  split at h
  · cases h
    exact Prod.ext rfl ‹_›
  · cases h

theorem readTokens_of_scimScan_error {v : Version} {e : UnknownToken}
    (h : scimScan v s = .error e) :
    (readTokens (scimRules v) s.toList 0 0).2 ≠ [] ∧
      e = ⟨byteLength (readTokens (scimRules v) s.toList 0 0).1,
        String.ofList ((readTokens (scimRules v) s.toList 0 0).2.take previewLength)⟩ := by
  rw [scimScan_eq_readTokens] at h
  split at h
  · cases h
  · cases h
    exact ⟨‹_›, rfl⟩

/-- Version 1 scans a text whole exactly when version 2 does with no bracket. -/
theorem scimScan_v1_eq_ok_iff {ts : List (Token TokenKind)} :
    scimScan .v1 s = .ok ts ↔ scimScan .v2 s = .ok ts ∧ ∀ t ∈ ts, t.kind ∉ bracketKinds := by
  constructor
  · intro h1
    rcases bracketFree_or_first (readTokens (scimRules .v2) s.toList 0 0).1 with
      hfree | ⟨ts₁, t, us, hrun, hts₁, ht⟩
    · have h2 : scimScan .v2 s = .ok ts := by rw [← scimScan_v1_of_bracketFree hfree, h1]
      rw [readTokens_of_scimScan_ok h2] at hfree
      exact ⟨h2, hfree⟩
    · rw [scimScan_v1_of_bracket hrun hts₁ ht] at h1
      cases h1
  · rintro ⟨h2, hfree⟩
    have hrun := readTokens_of_scimScan_ok h2
    rw [scimScan_v1_of_bracketFree (by rw [hrun]; exact hfree), h2]

/-- Version 1 scans a text as version 2 does up to the first bracket, where it stops with an
unknown token; a text that it scans it reads as version 2 does, and it reads no value path. -/
theorem read_version1_as_version2 (s : String) :
    (∀ ts, scimScan .v1 s = .ok ts ↔ scimScan .v2 s = .ok ts ∧ ∀ t ∈ ts, t.kind ∉ bracketKinds) ∧
    (∀ ts t us, scimScan .v2 s = .ok (ts ++ t :: us) → (∀ u ∈ ts, u.kind ∉ bracketKinds) →
      t.kind ∈ bracketKinds →
      scimScan .v1 s =
        .error ⟨t.offset, String.ofList ((joinedText (t :: us)).take previewLength)⟩) ∧
    (∀ e vs rest, scimScan .v2 s = .error e →
      readTokens (scimRules .v2) s.toList 0 0 = (vs, rest) →
      e.offset = byteLength vs ∧
      ((∀ u ∈ vs, u.kind ∉ bracketKinds) → scimScan .v1 s = .error e) ∧
      ∀ ts t us, vs = ts ++ t :: us → (∀ u ∈ ts, u.kind ∉ bracketKinds) →
        t.kind ∈ bracketKinds →
        t.offset < e.offset ∧ scimScan .v1 s = .error
          ⟨t.offset, String.ofList ((joinedText (t :: us) ++ rest).take previewLength)⟩) ∧
    (∀ ts, scimScan .v1 s = .ok ts → readFilter s .v1 = readFilter s .v2) ∧
    (∀ e, readFilter s .v1 = .ok e → e.containsValuePath = false) := by
  refine ⟨fun _ => scimScan_v1_eq_ok_iff, ?bracket, ?error, ?read, ?noValuePath⟩
  case bracket =>
    intro ts t us h2 hts ht
    have hrun := readTokens_of_scimScan_ok h2
    rw [scimScan_v1_of_bracket (by rw [hrun]) hts ht, hrun, List.append_nil]
  case error =>
    intro e vs rest he hR
    obtain ⟨hne, rfl⟩ := readTokens_of_scimScan_error he
    rw [hR] at hne ⊢
    refine ⟨rfl, fun hfree => ?_, fun ts t us hvs hts ht => ?_⟩
    · rw [scimScan_v1_of_bracketFree (by rw [hR]; exact hfree), he, hR]
    · have hrun : (readTokens (scimRules .v2) s.toList 0 0).1 = ts ++ t :: us := by
        rw [hR]
        exact hvs
      have htext : t.text ≠ "" :=
        text_ne_of_mem_readTokens (hrun ▸ List.mem_append_right ts List.mem_cons_self)
      refine ⟨?_, ?_⟩
      · -- the bracket's text takes at least one byte before the place where the scan stops
        have hsize : t.text.utf8ByteSize ≠ 0 := fun h0 =>
          htext (String.utf8ByteSize_eq_zero_iff.mp h0)
        rw [offset_of_readTokens hrun, hvs, byteLength_append, byteLength_cons]
        dsimp only
        omega
      · rw [scimScan_v1_of_bracket hrun hts ht, hR]
  case read =>
    intro ts h1
    obtain ⟨h2, hfree⟩ := scimScan_v1_eq_ok_iff.mp h1
    rw [readFilter_of_scan h1, readFilter_of_scan h2]
    exact filter_version fun t ht hopen => hfree t ht (by simp [bracketKinds, hopen])
  case noValuePath =>
    intro e h
    obtain ⟨ts, hscan⟩ := scan_of_readFilter h
    exact ((readFilter_eq_ok_iff hscan).mp h).no_valuePath rfl

theorem version1_stops_at_value_filter :
    scimScan .v2 "a[b pr]" = .ok [⟨.name, "a", 0, 0⟩, ⟨.openBracket, "[", 1, 1⟩,
      ⟨.name, "b", 2, 2⟩, ⟨.whitespace, " ", 3, 3⟩, ⟨.name, "pr", 4, 4⟩,
      ⟨.closeBracket, "]", 6, 5⟩] ∧
    scimScan .v1 "a[b pr]" = .error ⟨1, "[b pr]"⟩ := by
  have h2 : scimScan .v2 "a[b pr]" = .ok [⟨.name, "a", 0, 0⟩, ⟨.openBracket, "[", 1, 1⟩,
      ⟨.name, "b", 2, 2⟩, ⟨.whitespace, " ", 3, 3⟩, ⟨.name, "pr", 4, 4⟩,
      ⟨.closeBracket, "]", 6, 5⟩] := by
    decide +kernel
  exact ⟨h2, (read_version1_as_version2 "a[b pr]").2.1 [⟨.name, "a", 0, 0⟩] _ _ h2
    (by decide) (by decide)⟩

end ScimFilter
