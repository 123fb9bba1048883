import ScimFilter.Proofs.Rendering
import Mathlib
/-!
Filters read inside groups, negations, value paths and paths. The text of a filter that reads
is read the same between parentheses, after `not` and a blank, and between the brackets that
follow an attribute name, since each of these characters stops the tokens on either side of
it. Value filters do not nest: a value path, and a path, is refused when a value path occurs
anywhere in its filter, through groups, negations, conjunctions and disjunctions, which is what
`containsValuePath` tests.
-/

namespace ScimFilter

/-! ### Where a factor occurs -/

mutual

/-- The factor `f` stands in the expression: as one of the factors its disjunctions and
conjunctions chain, or within a group or a negation among them. The filter of a value path is
not looked into. -/
inductive Expression.Occurs (f : Factor) : Expression → Prop
  | orLeft {t : Term} {e : Expression} : Term.Occurs f t → Expression.Occurs f (.or t e)
  | orRight {t : Term} {e : Expression} : Expression.Occurs f e → Expression.Occurs f (.or t e)
  | term {t : Term} : Term.Occurs f t → Expression.Occurs f (.term t)

inductive Term.Occurs (f : Factor) : Term → Prop
  | andLeft {g : Factor} {t : Term} : Factor.Occurs f g → Term.Occurs f (.and g t)
  | andRight {g : Factor} {t : Term} : Term.Occurs f t → Term.Occurs f (.and g t)
  | factor {g : Factor} : Factor.Occurs f g → Term.Occurs f (.factor g)

inductive Factor.Occurs (f : Factor) : Factor → Prop
  | self : Factor.Occurs f f
  | group {e : Expression} : Expression.Occurs f e → Factor.Occurs f (.group e)
  | not {e : Expression} : Expression.Occurs f e → Factor.Occurs f (.not e)

end

variable {f g : Factor} {t : Term} {e : Expression}

@[simp] theorem Expression.occurs_or :
    Expression.Occurs f (.or t e) ↔ Term.Occurs f t ∨ Expression.Occurs f e := by
  constructor
  · rintro (h | h)
    · exact .inl h
    · exact .inr h
  · rintro (h | h)
    · exact .orLeft h
    · exact .orRight h

@[simp] theorem Expression.occurs_term : Expression.Occurs f (.term t) ↔ Term.Occurs f t :=
  ⟨fun | .term h => h, .term⟩

@[simp] theorem Term.occurs_and :
    Term.Occurs f (.and g t) ↔ Factor.Occurs f g ∨ Term.Occurs f t := by
  constructor
  · rintro (h | h)
    · exact .inl h
    · exact .inr h
  · rintro (h | h)
    · exact .andLeft h
    · exact .andRight h

@[simp] theorem Term.occurs_factor : Term.Occurs f (.factor g) ↔ Factor.Occurs f g :=
  ⟨fun | .factor h => h, .factor⟩

@[simp] theorem Factor.occurs_comparison {c : Comparison} :
    Factor.Occurs f (.comparison c) ↔ f = .comparison c :=
  ⟨fun h => by cases h; rfl, fun h => h ▸ .self⟩

@[simp] theorem Factor.occurs_group :
    Factor.Occurs f (.group e) ↔ f = .group e ∨ Expression.Occurs f e :=
  ⟨fun h => by cases h with
    | self => exact .inl rfl
    | group h => exact .inr h,
   fun h => h.elim (fun h => h ▸ .self) .group⟩

@[simp] theorem Factor.occurs_not :
    Factor.Occurs f (.not e) ↔ f = .not e ∨ Expression.Occurs f e :=
  ⟨fun h => by cases h with
    | self => exact .inl rfl
    | not h => exact .inr h,
   fun h => h.elim (fun h => h ▸ .self) .not⟩

@[simp] theorem Factor.occurs_valuePath {attr : AttributePath} :
    Factor.Occurs f (.valuePath attr e) ↔ f = .valuePath attr e :=
  ⟨fun h => by cases h; rfl, fun h => h ▸ .self⟩

mutual

/-- An expression contains a value path exactly when a value path occurs in it. -/
theorem Expression.containsValuePath_iff : (e : Expression) →
    (e.containsValuePath = true ↔ ∃ attr filter, Expression.Occurs (.valuePath attr filter) e)
  | .or t e => by
    simp [Expression.containsValuePath, t.containsValuePath_iff, e.containsValuePath_iff, exists_or]
  | .term t => by simp [Expression.containsValuePath, t.containsValuePath_iff]

theorem Term.containsValuePath_iff : (t : Term) →
    (t.containsValuePath = true ↔ ∃ attr filter, Term.Occurs (.valuePath attr filter) t)
  | .and g t => by
    simp [Term.containsValuePath, g.containsValuePath_iff, t.containsValuePath_iff, exists_or]
  | .factor g => by simp [Term.containsValuePath, g.containsValuePath_iff]

theorem Factor.containsValuePath_iff : (g : Factor) →
    (g.containsValuePath = true ↔ ∃ attr filter, Factor.Occurs (.valuePath attr filter) g)
  | .comparison c => by simp [Factor.containsValuePath]
  | .group e => by simp [Factor.containsValuePath, e.containsValuePath_iff]
  | .not e => by simp [Factor.containsValuePath, e.containsValuePath_iff]
  | .valuePath attr e => by simp [Factor.containsValuePath]

end

/-! ### Single names -/

theorem splitAtEach_of_not_mem {sep : Char} {cs : List Char} (h : sep ∉ cs) :
    splitAtEach sep cs = [cs] := by
  induction cs with
  | nil => rfl
  | cons c rest ih =>
    have hc : c ≠ sep := fun hc => h (hc ▸ List.mem_cons_self)
    simp only [splitAtEach, hc, if_false, ih (fun hr => h (List.mem_cons_of_mem c hr))]

theorem splitAtLast_of_not_mem {sep : Char} {cs : List Char} (h : sep ∉ cs) :
    splitAtLast sep cs = none := by
  have hall : cs.reverse.takeWhile (· ≠ sep) = cs.reverse :=
    List.takeWhile_eq_self_iff.mpr fun c hc => by
      have hne : c ≠ sep := fun hc' => h (hc' ▸ List.mem_reverse.mp hc)
      simpa using hne
  simp only [splitAtLast, hall, List.reverse_reverse, Nat.lt_irrefl, if_false]

/-- A raw path with no colon and no dot is a bare name. -/
theorem AttributePath.parse_bare {raw : String} (hne : raw.toList ≠ [])
    (hcolon : ':' ∉ raw.toList) (hdot : '.' ∉ raw.toList) : AttributePath.parse raw = .ok ⟨none, raw, none⟩ := by
  simp [AttributePath.parse, splitAtLast_of_not_mem hcolon, splitAtEach_of_not_mem hdot, hne]

end ScimFilter

namespace ScimFilter.Lexer

open Grammar (lexemes)

variable {v : Version}

/-- Only the name rule makes names, and it takes the whole run of name characters. -/
theorem firstMatch_name {cs : List Char} {n : Nat}
    (h : firstMatch (scimRules v) cs = some (.name, n)) : runLength isNameChar cs = n := by
  obtain ⟨pre, r, post, hrules, -, hk, ht, -⟩ :=
    (firstMatch_eq_some_iff (scimRules v) cs .name n).mp h
  have hr : r ∈ scimRules v := by simp [hrules]
  rcases mem_scimRules hr with rfl | rfl | rfl | rfl | rfl | rfl | rfl | rfl | rfl | rfl | rfl
  case inr.inr.inr.inr.inr.inr.inr.inr.inl => simpa [nameRule] using ht
  all_goals simp [whitespaceRule, numberRule, stringRule, single] at hk

/-- A text that the scan reads as a single name token is the token's text, not empty, and made
of name characters. -/
theorem scan_single_name {s : String} {t : Token TokenKind} (h : scimScan v s = .ok [t])
    (hk : t.kind = .name) :
    t.text = s ∧ s.toList ≠ [] ∧ ∀ c ∈ s.toList, isNameChar c = true := by
  have hr := reads_of_scanFrom h
  have htext : s.toList = t.text.toList := by simpa [joinedLexemes, Token.lexeme] using hr.text_eq
  refine ⟨(String.toList_inj.mp htext).symm, ?_⟩
  simp only [Grammar.lexemes_cons, Grammar.lexemes_nil, Token.lexeme, hk] at hr
  generalize t.text = w at hr
  generalize s.toList = cs at hr
  cases hr with
  | @step _ _ _ _ n hm hdone =>
    have hdrop : cs.drop n = [] := hdone.text_eq
    have hb := firstMatch_bounds _ cs hm
    have hrun : runLength isNameChar cs = cs.length := by
      rw [firstMatch_name hm]
      simp at hdrop
      omega
    refine ⟨fun hnil => by simp [hnil] at hb; omega, fun c hc => ?_⟩
    by_contra hc'
    have := runLength_lt_iff.mpr ⟨c, hc, by simpa using hc'⟩
    omega

end ScimFilter.Lexer

namespace ScimFilter.Grammar

open Lexer

variable {v : Version}

/-- A text that the scan reads as a single name is an attribute path of that name alone. -/
theorem IsAttributePath.of_name {s : String} {t : Token TokenKind} (h : scimScan v s = .ok [t])
    (hk : t.kind = .name) : IsAttributePath [(.name, s)] ⟨none, s, none⟩ := by
  obtain ⟨-, hne, hchars⟩ := scan_single_name h hk
  have hcolon : ':' ∉ s.toList := fun hc => absurd (hchars _ hc) (by decide)
  have hdot : '.' ∉ s.toList := fun hd => absurd (hchars _ hd) (by decide)
  refine ⟨by simp, by simp [pathKinds], ?_⟩
  simpa using AttributePath.parse_bare hne hcolon hdot

/-- A text that the scan reads as a single name is read as that name before a stopper. -/
theorem readsBefore_name {s : String} {t : Token TokenKind} (h : scimScan v s = .ok [t])
    (hk : t.kind = .name) : ReadsBefore v s.toList [(.name, s)] := by
  have hr := reads_of_scanFrom h
  simp only [lexemes_cons, lexemes_nil, Token.lexeme, hk, (scan_single_name h hk).1] at hr
  exact ReadsBefore.of_reads hr (by simp)

/-! ### Filters inside parentheses and brackets -/

/-- A filter text that reads is read, before any text that starts with a stopper, as lexemes
that derive the filter. -/
theorem readsBefore_of_readFilter {s : String} {e : Expression} (h : readFilter s v = .ok e) :
    ∃ xs, ReadsBefore v s.toList xs ∧ DerivesExpression v xs e := by
  obtain ⟨ts, hscan⟩ := scan_of_readFilter h
  have d := (readFilter_eq_ok_iff hscan).mp h
  have hr := reads_of_scanFrom hscan
  have htext := hr.text_eq
  rw [htext, List.append_nil] at hr
  refine ⟨lexemes ts, ?_, d⟩
  rw [htext, List.append_nil]
  exact ReadsBefore.of_readAlone hr d.solid.last

end ScimFilter.Grammar

namespace ScimFilter

open Grammar Lexer

/-- A filter that reads is read the same inside a group, a negation, a value path and the value
filter of a path, around any name that the scan reads as one name token, except that a value
path cannot open with `not`. The value path and both paths are refused when a value path occurs
anywhere in the filter. -/
theorem read_wrapped_filter {F a n : String} {e : Expression} {ta tn : Token TokenKind}
    (hF : readFilter F .v2 = .ok e) (ha : scimScan .v2 a = .ok [ta]) (hka : ta.kind = .name)
    (hn : scimScan .v2 n = .ok [tn]) (hkn : tn.kind = .name) :
    readFilter ("(" ++ F ++ ")") .v2 = .ok (.term (.factor (.group e))) ∧
    readFilter ("not (" ++ F ++ ")") .v2 = .ok (.term (.factor (.not e))) ∧
    (a ≠ "not" → readFilter (a ++ "[" ++ F ++ "]") .v2 =
      if e.containsValuePath then .error .valueFilterNesting
      else .ok (.term (.factor (.valuePath ⟨none, a, none⟩ e)))) ∧
    readPath (a ++ "[" ++ F ++ "]") .v2 =
      (if e.containsValuePath then .error .valueFilterNesting
      else .ok ⟨⟨none, a, none⟩, some e, none⟩) ∧
    readPath (a ++ "[" ++ F ++ "]." ++ n) .v2 =
      (if e.containsValuePath then .error .valueFilterNesting
      else .ok ⟨⟨none, a, none⟩, some e, some n⟩) ∧
    (e.containsValuePath = true ↔
      ∃ attr filter, Expression.Occurs (.valuePath attr filter) e) := by
  obtain ⟨xs, hin, d⟩ := readsBefore_of_readFilter hF
  have hname := readsBefore_name ha hka
  have hattr := IsAttributePath.of_name ha hka
  -- the filter between brackets after the name, scanned once for both modes
  have hbracketed : (a ++ "[" ++ F ++ "]").toList = a.toList ++ '[' :: F.toList ++ ']' :: [] := by
    simp
  obtain ⟨tb, hscanb, htb⟩ := ReadsBefore.scan (s := a ++ "[" ++ F ++ "]")
    (hbracketed ▸ ReadsBefore.bracketed rfl hname hin ReadsBefore.nil)
  refine ⟨?group, ?negation, ?valuePath, ?filtered, ?subAttribute, e.containsValuePath_iff⟩
  case group =>
    have htext : ("(" ++ F ++ ")").toList = '(' :: F.toList ++ [')'] := by simp
    obtain ⟨ts, hscan, hts⟩ :=
      ReadsBefore.scan (s := "(" ++ F ++ ")") (htext ▸ ReadsBefore.parenthesized hin)
    exact (readFilter_eq_ok_iff hscan).mpr (hts ▸ .term (.factor (.group d)))
  case negation =>
    have htext : ("not (" ++ F ++ ")").toList =
        "not".toList ++ ' ' :: ('(' :: F.toList ++ [')']) := by
      simp
    obtain ⟨ts, hscan, hts⟩ :=
      ReadsBefore.scan (s := "not (" ++ F ++ ")") (htext ▸ ReadsBefore.negated hin)
    exact (readFilter_eq_ok_iff hscan).mpr (hts ▸ .term (.factor (.not d)))
  case valuePath =>
    intro hnot
    rw [readFilter_of_scan hscanb]
    exact filter_valuePath rfl hattr (by simpa [notKeyword] using hnot)
      (fun _ hx => absurd hx List.not_mem_nil) d htb
  case filtered =>
    rw [readPath_of_scan hscanb]
    exact wholePath_filtered hattr d htb (.inl ⟨rfl, rfl⟩)
  case subAttribute =>
    have htext : (a ++ "[" ++ F ++ "]." ++ n).toList =
        a.toList ++ '[' :: F.toList ++ ']' :: '.' :: n.toList := by simp
    obtain ⟨ts, hscan, hts⟩ := ReadsBefore.scan (s := a ++ "[" ++ F ++ "]." ++ n)
      (htext ▸ ReadsBefore.bracketed rfl hname hin
        (ReadsBefore.punctuation_cons dot_mem (readsBefore_name hn hkn)))
    rw [readPath_of_scan hscan]
    exact wholePath_filtered hattr d hts (.inr (.inr ⟨_, n, rfl, rfl⟩))

theorem nested_value_filter_refused :
    readFilter "b[c pr]" .v2 = .ok (.term (.factor (.valuePath ⟨none, "b", none⟩
      (.term (.factor (.comparison ⟨⟨none, "c", none⟩, .present, none⟩)))))) ∧
    scimScan .v2 "emails" = .ok [⟨.name, "emails", 0, 0⟩] ∧
    scimScan .v2 "value" = .ok [⟨.name, "value", 0, 0⟩] ∧
    readFilter "(b[c pr])" .v2 = .ok (.term (.factor (.group (.term (.factor
      (.valuePath ⟨none, "b", none⟩
        (.term (.factor (.comparison ⟨⟨none, "c", none⟩, .present, none⟩))))))))) ∧
    readFilter "not (b[c pr])" .v2 = .ok (.term (.factor (.not (.term (.factor
      (.valuePath ⟨none, "b", none⟩
        (.term (.factor (.comparison ⟨⟨none, "c", none⟩, .present, none⟩))))))))) ∧
    readFilter "emails[b[c pr]]" .v2 = .error .valueFilterNesting ∧
    readPath "emails[b[c pr]]" .v2 = .error .valueFilterNesting ∧
    readPath "emails[b[c pr]].value" .v2 = .error .valueFilterNesting := by
  have hlex : (scimScan .v2 "b[c pr]").map lexemes = .ok [(.name, "b"), (.openBracket, "["),
      (.name, "c"), (.whitespace, " "), (.name, "pr"), (.closeBracket, "]")] := by
    decide +kernel
  obtain ⟨ts, hscan, hts⟩ := except_map_eq_ok.mp hlex
  have hb : IsAttributePath [(.name, "b")] ⟨none, "b", none⟩ :=
    ⟨by simp, by decide, by decide⟩
  have hc : IsAttributePath [(.name, "c")] ⟨none, "c", none⟩ :=
    ⟨by simp, by decide, by decide⟩
  have d : DerivesExpression .v2 [(.name, "b"), (.openBracket, "["), (.name, "c"),
      (.whitespace, " "), (.name, "pr"), (.closeBracket, "]")] _ :=
    .term (.factor (.valuePath rfl hb (by decide) (fun _ hx => absurd hx List.not_mem_nil)
      (.term (.factor (.present hc (by decide) ⟨rfl, Operator.ofWord?_word .present⟩))) rfl))
  rw [← hts] at d
  have hF := (readFilter_eq_ok_iff hscan).mpr d
  have ha : scimScan .v2 "emails" = .ok [⟨.name, "emails", 0, 0⟩] := by decide +kernel
  have hn : scimScan .v2 "value" = .ok [⟨.name, "value", 0, 0⟩] := by decide +kernel
  obtain ⟨hgroup, hnot, hvp, hpath, hsub, -⟩ := read_wrapped_filter hF ha rfl hn rfl
  exact ⟨hF, ha, hn, hgroup, hnot, hvp (by decide), hpath, hsub⟩

end ScimFilter
