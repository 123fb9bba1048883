import ScimFilter.Proofs.Rendering
import ScimFilter.Filter.Tree
/-!
The JSON view of a tree tells trees apart. Every node is an object whose `type` member names
its constructor, so nodes of different kinds have different objects; a comparison lists
`dateTime` only for a string, and `value` only when it has one; numbers become doubles. Two
trees whose numbers are finite have equal JSON views exactly when they are equal, numbers
compared as doubles on both sides (`Root.toJson_beq`). The trees a reader makes have only finite
numbers (`read_numbers_finite`), so their views tell them apart (`read_toJson_beq`).
-/

namespace ScimFilter

namespace Json

@[simp] theorem beq_def (a b : Json) : (a == b) = a.beq b := rfl

@[simp] theorem beq_object (ms ns : List (String × Json)) :
    (object ms).beq (object ns) = beqMembers ms ns := by
  simp [beq]

@[simp] theorem null_beq_null : null.beq null = true := by
  simp [beq]

@[simp] theorem beq_string (s t : String) : (string s).beq (string t) = (s == t) := by
  simp [beq]

@[simp] theorem beqMembers_nil : beqMembers [] [] = true := by
  simp [beqMembers]

@[simp] theorem beqMembers_cons (k k' : String) (v v' : Json) (ms ns : List (String × Json)) :
    beqMembers ((k, v) :: ms) ((k', v') :: ns) = (k == k' && v.beq v' && beqMembers ms ns) := by
  simp [beqMembers]

@[simp] theorem beqMembers_nil_cons (m : String × Json) (ms : List (String × Json)) :
    beqMembers [] (m :: ms) = false := by
  simp [beqMembers]

@[simp] theorem beqMembers_cons_nil (m : String × Json) (ms : List (String × Json)) :
    beqMembers (m :: ms) [] = false := by
  obtain ⟨k, v⟩ := m
  simp [beqMembers]

/-- The `type` member of an object, which names the node the object stands for. -/
def typeTag : Json → Option String
  | object members =>
    match members.lookup "type" with
    | some (string s) => some s
    | _ => none
  | _ => none

theorem string_beq_eq_true {s : String} {v : Json} : (string s).beq v = true ↔ v = string s := by
  cases v with
  | string t => simp [beq, eq_comm (a := t)]
  | _ => simp [beq]

theorem beq_string_eq_true {s : String} {v : Json} : v.beq (string s) = true ↔ v = string s := by
  cases v <;> simp [beq]

/-- Objects equal member by member have the same key at each place and equal values there. -/
theorem lookup_of_beqMembers (k : String) :
    {ms ns : List (String × Json)} → beqMembers ms ns = true →
      (ms.lookup k = none ∧ ns.lookup k = none) ∨
      ∃ v v', ms.lookup k = some v ∧ ns.lookup k = some v' ∧ v.beq v' = true
  | [], [], _ => .inl ⟨rfl, rfl⟩
  | (k₁, v₁) :: ms, (k₂, v₂) :: ns, h => by
    simp only [beqMembers_cons, Bool.and_eq_true, beq_iff_eq] at h
    obtain ⟨⟨rfl, hv⟩, hrest⟩ := h
    by_cases hk : k = k₁
    · subst hk
      exact .inr ⟨v₁, v₂, by simp, by simp, hv⟩
    · have hne : (k == k₁) = false := by simpa using hk
      simp only [List.lookup_cons, hne]
      exact lookup_of_beqMembers k hrest
  | [], _ :: _, h => by simp at h
  | _ :: _, [], h => by simp at h

/-- Equal objects name the same node. -/
theorem typeTag_eq_of_beq {a b : Json} (h : a.beq b = true) : a.typeTag = b.typeTag := by
  cases a <;> cases b <;> simp [beq] at h
  case object.object ms ns =>
    simp only [typeTag]
    rcases lookup_of_beqMembers "type" h with ⟨hm, hn⟩ | ⟨v, v', hm, hn, hv⟩
    · rw [hm, hn]
    · rw [hm, hn]
      by_cases hs : ∃ s, v = string s
      · obtain ⟨s, rfl⟩ := hs
        rw [string_beq_eq_true.mp hv]
      · -- neither member is a string, so neither object names a node
        have hs' : ¬∃ s, v' = string s := by
          rintro ⟨s, rfl⟩
          exact hs ⟨s, beq_string_eq_true.mp hv⟩
        split <;> split <;> simp_all
  -- values that are not objects have no `type` member
  all_goals rfl

theorem beq_eq_false_of_typeTag_ne {a b : Json} (h : a.typeTag ≠ b.typeTag) : a.beq b = false := by
  cases hb : a.beq b
  · rfl
  · exact absurd (typeTag_eq_of_beq hb) h

theorem ofOption_beq (a b : Option String) : (ofOption a).beq (ofOption b) = (a == b) := by
  cases a <;> cases b <;> simp [ofOption, beq]

end Json

open Json

/-! ### Leaves -/

theorem AttributePath.toJson_beq (p q : AttributePath) : p.toJson.beq q.toJson = (p == q) := by
  obtain ⟨schema, name, sub⟩ := p
  obtain ⟨schema', name', sub'⟩ := q
  rw [Bool.eq_iff_iff]
  simp [AttributePath.toJson, ofOption_beq, and_left_comm]

theorem Operator.word_inj {op op' : Operator} (h : op.word = op'.word) : op = op' := by
  simpa [ofWord?_word] using congrArg Operator.ofWord? h

theorem Operator.word_beq (op op' : Operator) : (op.word == op'.word) = (op == op') := by
  rw [Bool.eq_iff_iff]
  simpa using ⟨Operator.word_inj, congrArg Operator.word⟩

theorem CompareValue.beq_eq (v w : CompareValue) : (v == w) = instBEqCompareValue.beq v w := rfl

/-- A literal with a finite number is its own JSON value: `null` for `null` only. -/
theorem CompareValue.toJson_beq {v w : CompareValue} (hv : ∀ x ∈ v.asFloat?, x.isFinite = true)
    (hw : ∀ x ∈ w.asFloat?, x.isFinite = true) : v.toJson.beq w.toJson = (v == w) := by
  cases v <;> cases w <;>
    simp_all [CompareValue.toJson, CompareValue.asFloat?, beq, CompareValue.beq_eq,
      instBEqCompareValue.beq]

@[simp] theorem Comparison.beq_mk (attr attr' : AttributePath) (op op' : Operator)
    (value value' : Option CompareValue) :
    ((⟨attr, op, value⟩ : Comparison) == ⟨attr', op', value'⟩) =
      (attr == attr' && (op == op' && value == value')) := rfl

/-- A comparison's members: `dateTime` only for a string, `value` only when there is one. -/
theorem Comparison.toJson_beq (c c' : Comparison)
    (hc : ∀ x ∈ c.value.bind CompareValue.asFloat?, x.isFinite = true)
    (hc' : ∀ x ∈ c'.value.bind CompareValue.asFloat?, x.isFinite = true) :
    c.toJson.beq c'.toJson = (c == c') := by
  rcases c with ⟨attr, op, _ | v⟩ <;> rcases c' with ⟨attr', op', _ | v'⟩
  · simp [Comparison.toJson, AttributePath.toJson_beq, Operator.word_beq]
  · cases v' <;> simp [Comparison.toJson]
  · cases v <;> simp [Comparison.toJson]
  · have hval := CompareValue.toJson_beq (v := v) (w := v') (by simpa using hc) (by simpa using hc')
    cases v <;> cases v'
    case string.string s t =>
      -- equal texts carry the same date-time hint
      by_cases hst : s = t
      · subst hst
        simp [Comparison.toJson, CompareValue.toJson, AttributePath.toJson_beq, Operator.word_beq,
          CompareValue.beq_eq, instBEqCompareValue.beq, beq]
      · have hne : (s == t) = false := by simpa using hst
        simp [Comparison.toJson, CompareValue.toJson, CompareValue.beq_eq, instBEqCompareValue.beq,
          hne]
    all_goals simp [Comparison.toJson, AttributePath.toJson_beq, Operator.word_beq, hval,
      CompareValue.beq_eq, instBEqCompareValue.beq]

/-! ### Each node names its kind -/

@[simp] theorem Comparison.typeTag_toJson (c : Comparison) : c.toJson.typeTag = some "comparison" := by
  rcases c with ⟨attr, op, _ | v⟩
  · simp [Comparison.toJson, typeTag, List.lookup_cons]
  · cases v <;> simp [Comparison.toJson, typeTag, List.lookup_cons]

section Tags

variable (attr : AttributePath) (e : Expression) (t : Term) (f : Factor) (c : Comparison)

@[simp] theorem Expression.typeTag_or : (Expression.or t e).toJson.typeTag = some "or" := by
  simp [Expression.toJson, typeTag, List.lookup_cons]

@[simp] theorem Expression.typeTag_term : (Expression.term t).toJson.typeTag = t.toJson.typeTag :=
  rfl

@[simp] theorem Term.typeTag_and : (Term.and f t).toJson.typeTag = some "and" := by
  simp [Term.toJson, typeTag, List.lookup_cons]

@[simp] theorem Term.typeTag_factor : (Term.factor f).toJson.typeTag = f.toJson.typeTag := rfl

@[simp] theorem Factor.typeTag_comparison : (Factor.comparison c).toJson.typeTag = some "comparison" :=
  c.typeTag_toJson

@[simp] theorem Factor.typeTag_group : (Factor.group e).toJson.typeTag = some "group" := by
  simp [Factor.toJson, typeTag, List.lookup_cons]

@[simp] theorem Factor.typeTag_not : (Factor.not e).toJson.typeTag = some "not" := by
  simp [Factor.toJson, typeTag, List.lookup_cons]

@[simp] theorem Factor.typeTag_valuePath :
    (Factor.valuePath attr e).toJson.typeTag = some "valuePath" := by
  simp [Factor.toJson, typeTag, List.lookup_cons]

end Tags

theorem Factor.typeTag_toJson_ne (f : Factor) :
    f.toJson.typeTag ≠ some "or" ∧ f.toJson.typeTag ≠ some "and" := by
  cases f <;> simp

theorem Term.typeTag_toJson_ne_or (t : Term) : t.toJson.typeTag ≠ some "or" := by
  cases t with
  | and f t => simp
  | factor f => simpa using (Factor.typeTag_toJson_ne f).1

/-- Every node of a filter has a `type` member. -/
theorem Expression.typeTag_toJson_ne_none (e : Expression) : e.toJson.typeTag ≠ none := by
  rcases e with _ | ⟨_ | ⟨f⟩⟩
  · simp
  · simp
  · cases f <;> simp

/-! ### Trees -/

mutual

theorem Expression.toJson_beq : (e e' : Expression) → (∀ x ∈ e.numbers, x.isFinite = true) →
    (∀ x ∈ e'.numbers, x.isFinite = true) → e.toJson.beq e'.toJson = e.beq e'
  | .or l r, e', h, h' => by
    simp only [Expression.numbers, List.forall_mem_append] at h
    cases e' with
    | or l' r' =>
      simp only [Expression.numbers, List.forall_mem_append] at h'
      simp [Expression.toJson, Expression.beq, Term.toJson_beq l l' h.1 h'.1,
        Expression.toJson_beq r r' h.2 h'.2]
    | term t' =>
      refine (beq_eq_false_of_typeTag_ne ?_).trans rfl
      simpa [eq_comm] using Term.typeTag_toJson_ne_or t'
  | .term t, e', h, h' => by
    cases e' with
    | or l' r' =>
      refine (beq_eq_false_of_typeTag_ne ?_).trans rfl
      simpa using Term.typeTag_toJson_ne_or t
    | term t' => exact Term.toJson_beq t t' h h'

theorem Term.toJson_beq : (t t' : Term) → (∀ x ∈ t.numbers, x.isFinite = true) →
    (∀ x ∈ t'.numbers, x.isFinite = true) → t.toJson.beq t'.toJson = t.beq t'
  | .and f t, t', h, h' => by
    simp only [Term.numbers, List.forall_mem_append] at h
    cases t' with
    | and f' t' =>
      simp only [Term.numbers, List.forall_mem_append] at h'
      simp [Term.toJson, Term.beq, Factor.toJson_beq f f' h.1 h'.1, Term.toJson_beq t t' h.2 h'.2]
    | factor f' =>
      refine (beq_eq_false_of_typeTag_ne ?_).trans rfl
      simpa [eq_comm] using (Factor.typeTag_toJson_ne f').2
  | .factor f, t', h, h' => by
    cases t' with
    | and f' t' =>
      refine (beq_eq_false_of_typeTag_ne ?_).trans rfl
      simpa using (Factor.typeTag_toJson_ne f).2
    | factor f' => exact Factor.toJson_beq f f' h h'

theorem Factor.toJson_beq : (f f' : Factor) → (∀ x ∈ f.numbers, x.isFinite = true) →
    (∀ x ∈ f'.numbers, x.isFinite = true) → f.toJson.beq f'.toJson = f.beq f'
  | .comparison c, f', h, h' => by
    cases f'
    case comparison c' =>
      exact Comparison.toJson_beq c c' (by simpa [Factor.numbers] using h)
        (by simpa [Factor.numbers] using h')
    all_goals exact (beq_eq_false_of_typeTag_ne (by simp)).trans rfl
  | .group e, f', h, h' => by
    cases f'
    case group e' => simp [Factor.toJson, Factor.beq, Expression.toJson_beq e e' h h']
    all_goals exact (beq_eq_false_of_typeTag_ne (by simp)).trans rfl
  | .not e, f', h, h' => by
    cases f'
    case not e' => simp [Factor.toJson, Factor.beq, Expression.toJson_beq e e' h h']
    all_goals exact (beq_eq_false_of_typeTag_ne (by simp)).trans rfl
  | .valuePath attr e, f', h, h' => by
    cases f'
    case valuePath attr' e' =>
      simp [Factor.toJson, Factor.beq, AttributePath.toJson_beq, Expression.toJson_beq e e' h h']
    all_goals exact (beq_eq_false_of_typeTag_ne (by simp)).trans rfl

end

@[simp] theorem Expression.beq_eq (e e' : Expression) : (e == e') = e.beq e' := rfl

@[simp] theorem Path.beq_mk (attr attr' : AttributePath) (filter filter' : Option Expression)
    (sub sub' : Option String) :
    ((⟨attr, filter, sub⟩ : Path) == ⟨attr', filter', sub'⟩) =
      (attr == attr' && (filter == filter' && sub == sub')) := rfl

theorem Path.toJson_beq (p q : Path) (hp : ∀ x ∈ p.numbers, x.isFinite = true)
    (hq : ∀ x ∈ q.numbers, x.isFinite = true) : p.toJson.beq q.toJson = (p == q) := by
  rcases p with ⟨attr, _ | e, sub⟩ <;> rcases q with ⟨attr', _ | e', sub'⟩
  · simp [Path.toJson, AttributePath.toJson_beq, ofOption_beq]
  · -- a value filter is an object, never `null`
    have hne := beq_eq_false_of_typeTag_ne (a := .null) (b := e'.toJson)
      (by simpa [typeTag, eq_comm] using e'.typeTag_toJson_ne_none)
    simp [Path.toJson, hne]
  · have hne := beq_eq_false_of_typeTag_ne (a := e.toJson) (b := .null)
      (by simpa [typeTag] using e.typeTag_toJson_ne_none)
    simp [Path.toJson, hne]
  · have he := Expression.toJson_beq e e' (by simpa [Path.numbers] using hp)
      (by simpa [Path.numbers] using hq)
    simp [Path.toJson, AttributePath.toJson_beq, ofOption_beq, he]

/-- Two trees whose numbers are finite have equal JSON views exactly when they are equal. -/
theorem Root.toJson_beq (r r' : Root) (hr : ∀ x ∈ r.numbers, x.isFinite = true)
    (hr' : ∀ x ∈ r'.numbers, x.isFinite = true) : (r.toJson == r'.toJson) = (r == r') := by
  cases r with
  | filter e =>
    cases r' with
    | filter e' => exact Expression.toJson_beq e e' hr hr'
    | path p' =>
      -- a path has no `type` member
      refine (beq_eq_false_of_typeTag_ne ?_).trans rfl
      simpa [Root.toJson, Path.toJson, typeTag, List.lookup_cons] using e.typeTag_toJson_ne_none
  | path p =>
    cases r' with
    | filter e' =>
      refine (beq_eq_false_of_typeTag_ne ?_).trans rfl
      simpa [Root.toJson, Path.toJson, typeTag, List.lookup_cons, eq_comm] using
        e'.typeTag_toJson_ne_none
    | path p' => exact Path.toJson_beq p p' hr hr'

end ScimFilter

/-! ### The numbers a reader reads are finite -/

namespace ScimFilter.Grammar

variable {v : Version}

theorem literal_finite {x : Lexeme} {val : CompareValue} (h : IsLiteral x val) :
    ∀ y ∈ val.asFloat?, y.isFinite = true := by
  cases h with
  | number text finite => simpa [CompareValue.asFloat?] using finite
  | _ => simp [CompareValue.asFloat?]

mutual

theorem DerivesExpression.numbers_finite {xs : List Lexeme} {e : Expression} :
    DerivesExpression v xs e → ∀ x ∈ e.numbers, x.isFinite = true
  | .term d => d.numbers_finite
  | .or d1 d2 => by
    intro x hx
    simp only [Expression.numbers, List.mem_append] at hx
    exact hx.elim (d1.numbers_finite x) (d2.numbers_finite x)

theorem DerivesTerm.numbers_finite {xs : List Lexeme} {t : Term} :
    DerivesTerm v xs t → ∀ x ∈ t.numbers, x.isFinite = true
  | .factor d => d.numbers_finite
  | .and d1 d2 => by
    intro x hx
    simp only [Term.numbers, List.mem_append] at hx
    exact hx.elim (d1.numbers_finite x) (d2.numbers_finite x)

theorem DerivesFactor.numbers_finite {xs : List Lexeme} {f : Factor} :
    DerivesFactor v xs f → ∀ x ∈ f.numbers, x.isFinite = true
  | .not d => d.numbers_finite
  | .group d => d.numbers_finite
  | .valuePath _ _ _ _ d _ => d.numbers_finite
  | .present .. => by simp [Factor.numbers]
  | .compare _ _ _ _ hx => by simpa [Factor.numbers] using literal_finite hx

end

theorem DerivesPath.numbers_finite {xs : List Lexeme} {p : Path} (d : DerivesPath v xs p) :
    ∀ x ∈ p.numbers, x.isFinite = true := by
  cases d with
  | bare _ => simp [Path.numbers]
  | filtered _ d _ => simpa [Path.numbers] using d.numbers_finite
  | dotted _ d _ => simpa [Path.numbers] using d.numbers_finite
  | subAttribute _ d _ => simpa [Path.numbers] using d.numbers_finite

end ScimFilter.Grammar

namespace ScimFilter

open Grammar

/-- A reader keeps only numbers that are finite as doubles. -/
theorem read_numbers_finite {m : Mode} {v : Version} {s : String} {root : Root}
    (h : Reader.read ⟨m, v⟩ s = .ok root) : ∀ x ∈ root.numbers, x.isFinite = true := by
  obtain ⟨ts, hscan⟩ := scan_of_read h
  cases root with
  | filter e => exact ((read_eq_ok_iff hscan).mp h).2.numbers_finite
  | path p => exact ((read_eq_ok_iff hscan).mp h).2.numbers_finite

/-- Two trees read in one mode, by readers of any versions, have equal JSON views exactly when
they are equal: the view keeps the nesting of `or` and `and`, tells a group from a negation, a
presence test from a comparison with `null`, and a string from every other literal, and maps
no number to `null`. -/
theorem read_toJson_beq {m : Mode} {v₁ v₂ : Version} {s₁ s₂ : String} {r₁ r₂ : Root}
    (h₁ : Reader.read ⟨m, v₁⟩ s₁ = .ok r₁) (h₂ : Reader.read ⟨m, v₂⟩ s₂ = .ok r₂) :
    (r₁.toJson == r₂.toJson) = (r₁ == r₂) :=
  Root.toJson_beq r₁ r₂ (read_numbers_finite h₁) (read_numbers_finite h₂)

/-- `title pr` has no `value` member and `title eq null` has one, so the two are told apart. -/
theorem presence_test_and_null_comparison_differ :
    Reader.read ⟨.filter, .v2⟩ "title pr" =
      .ok (.filter (.term (.factor (.comparison ⟨⟨none, "title", none⟩, .present, none⟩)))) ∧
    Reader.read ⟨.filter, .v2⟩ "title eq null" =
      .ok (.filter (.term (.factor (.comparison ⟨⟨none, "title", none⟩, .equal, some .null⟩)))) ∧
    ((Root.filter (.term (.factor (.comparison ⟨⟨none, "title", none⟩, .present, none⟩)))).toJson ==
      (Root.filter (.term (.factor
        (.comparison ⟨⟨none, "title", none⟩, .equal, some .null⟩)))).toJson) =
    (Root.filter (.term (.factor (.comparison ⟨⟨none, "title", none⟩, .present, none⟩))) ==
      Root.filter (.term (.factor (.comparison ⟨⟨none, "title", none⟩, .equal, some .null⟩)))) := by
  have hpr : (Lexer.scimScan .v2 "title pr").map lexemes =
      .ok [(.name, "title"), (.whitespace, " "), (.name, "pr")] := by
    decide +kernel
  have hnull : (Lexer.scimScan .v2 "title eq null").map lexemes =
      .ok [(.name, "title"), (.whitespace, " "), (.name, "eq"), (.whitespace, " "), (.name, "null")] := by
    decide +kernel
  obtain ⟨ts, hscan, hts⟩ := except_map_eq_ok.mp hpr
  obtain ⟨us, hscan', hus⟩ := except_map_eq_ok.mp hnull
  have htitle : IsAttributePath [(.name, "title")] ⟨none, "title", none⟩ := ⟨by simp, by decide, by decide⟩
  have d : DerivesExpression .v2 [(.name, "title"), (.whitespace, " "), (.name, "pr")] _ :=
    .term (.factor (.present htitle (by decide) ⟨rfl, Operator.ofWord?_word .present⟩))
  have d' : DerivesExpression .v2
      [(.name, "title"), (.whitespace, " "), (.name, "eq"), (.whitespace, " "), (.name, "null")] _ :=
    .term (.factor (.compare htitle (by decide) ⟨rfl, Operator.ofWord?_word .equal⟩ (by decide) .null))
  rw [← hts] at d
  rw [← hus] at d'
  have h₁ : Reader.read ⟨.filter, .v2⟩ "title pr" = .ok (.filter _) :=
    (read_eq_ok_iff hscan).mpr ⟨rfl, d⟩
  have h₂ : Reader.read ⟨.filter, .v2⟩ "title eq null" = .ok (.filter _) :=
    (read_eq_ok_iff hscan').mpr ⟨rfl, d'⟩
  exact ⟨h₁, h₂, read_toJson_beq h₁ h₂⟩

end ScimFilter
