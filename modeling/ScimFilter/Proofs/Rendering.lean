import ScimFilter.Proofs.Composition
import ScimFilter.Proofs.PlainNumbers
import ScimFilter.Proofs.Reading
import Mathlib
/-!
Reading the canonical text of a tree gives the tree back (`read_render`). The text of an
attribute path is the text it was read from, a string literal keeps its quotes and escapes, and
every other piece of the canonical text is a word, a bracket or a single blank, so the pieces
are read one by one into lexemes that derive the tree again, whatever follows them, as long as
it starts with a stopper. A number is written in plain notation, which is read as one number
token; that the number token reads back as the same double is assumed, for the numbers of the
tree (`Decimal.RoundTrips`).
-/

namespace ScimFilter

/-! ### Attribute paths are written as they were read -/

theorem splitAtEach_ne_nil (sep : Char) (cs : List Char) : splitAtEach sep cs ≠ [] := by
  cases cs with
  | nil => simp [splitAtEach]
  | cons c rest =>
    simp only [splitAtEach]
    split
    · simp
    · split <;> simp

/-- The pieces of a split, joined by the separator, give the text back. -/
theorem intercalate_splitAtEach (sep : Char) (cs : List Char) :
    [sep].intercalate (splitAtEach sep cs) = cs := by
  induction cs with
  | nil => rfl
  | cons c rest ih =>
    simp only [splitAtEach]
    split
    · rename_i hc
      subst hc
      rw [List.intercalate_cons_of_ne_nil (splitAtEach_ne_nil _ rest), ih]
      rfl
    · split
      · rename_i piece more hpieces
        rw [List.intercalate_cons_cons_left, ← hpieces, ih]
      · rename_i hpieces
        exact absurd hpieces (splitAtEach_ne_nil _ rest)

/-- Splitting at the last separator leaves the text before it and the text after it. -/
theorem splitAtLast_eq_some {sep : Char} {cs a b : List Char} (h : splitAtLast sep cs = some (a, b)) :
    cs = a ++ sep :: b := by
  unfold splitAtLast at h
  dsimp only at h
  split at h
  · rename_i hlt
    cases h
    have hr := (List.takeWhile_append_dropWhile (p := (· ≠ sep)) (l := cs.reverse)).symm
    have hhead := List.head?_dropWhile_not (· ≠ sep) cs.reverse
    generalize cs.reverse.takeWhile (· ≠ sep) = tw at hr hlt ⊢
    generalize cs.reverse.dropWhile (· ≠ sep) = dw at hr hhead
    cases dw with
    | nil =>
      have := congrArg List.length hr
      simp at this hlt
      omega
    | cons d dw' =>
      have hd : d = sep := by simpa using hhead
      subst hd
      have hcs : cs = dw'.reverse ++ d :: tw.reverse := by
        rw [← List.reverse_reverse cs, hr]
        simp
      have hlen : (dw'.reverse).length = cs.length - tw.reverse.length - 1 := by
        rw [hcs]
        simp
        omega
      rw [← hlen, hcs, List.take_left' rfl]
  · cases h

/-- The pieces of the name part of a raw attribute path that reads: the name, and the
sub-attribute if there is one. -/
theorem splitAtEach_of_pieces {raw : String} {sch : Option String} {bare : List Char}
    {attr : AttributePath}
    (h : (match splitAtEach '.' bare with
      | _ :: _ :: _ :: _ => Except.error (AttributePathError.tooManySubAttributes raw)
      | name :: rest =>
        if name.isEmpty = true then Except.error (AttributePathError.emptyName raw)
        else match rest with
          | [] => Except.ok (⟨sch, String.ofList name, none⟩ : AttributePath)
          | sub :: _ =>
            if sub.isEmpty = true then Except.error (AttributePathError.emptySubAttribute raw)
            else Except.ok (⟨sch, String.ofList name, some (String.ofList sub)⟩ : AttributePath)
      | [] => Except.error (AttributePathError.emptyName raw)) = .ok attr) :
    attr.schema = sch ∧
      splitAtEach '.' bare = attr.name.toList :: attr.subAttribute.toList.map String.toList := by
  split at h
  · cases h
  · rename_i pieces name rest hnot hpieces
    split at h
    · cases h
    · split at h
      · cases h
        simp [hpieces]
      · split at h
        · cases h
        · cases h
          rename_i sub tail _
          cases tail with
          | nil => simp [hpieces]
          | cons t ts => exact absurd rfl (hnot sub t ts)
  · cases h

/-- How a raw attribute path that reads is put together: its schema and a colon, if there is a
schema, then the name part, whose pieces between dots are the name and the sub-attribute. -/
theorem parse_eq_ok {raw : String} {attr : AttributePath} (h : AttributePath.parse raw = .ok attr) :
    ∃ bare, raw.toList = attr.schema.elim [] (fun s => s.toList ++ [':']) ++ bare ∧
      splitAtEach '.' bare = attr.name.toList :: attr.subAttribute.toList.map String.toList := by
  simp only [AttributePath.parse] at h
  cases hs : splitAtLast ':' raw.toList with
  | none =>
    simp only [hs] at h
    obtain ⟨hsch, hpieces⟩ := splitAtEach_of_pieces h
    exact ⟨raw.toList, by simp [hsch], hpieces⟩
  | some p =>
    obtain ⟨a, b⟩ := p
    simp only [hs] at h
    obtain ⟨hsch, hpieces⟩ := splitAtEach_of_pieces h
    exact ⟨b, by simp [hsch, splitAtLast_eq_some hs], hpieces⟩

/-- A raw attribute path that reads is written back as it was. -/
theorem AttributePath.render_of_parse {raw : String} {attr : AttributePath}
    (h : AttributePath.parse raw = .ok attr) : attr.render = raw := by
  obtain ⟨bare, hraw, hpieces⟩ := parse_eq_ok h
  have hbare := intercalate_splitAtEach '.' bare
  rw [hpieces] at hbare
  apply String.toList_inj.mp
  rw [hraw, ← hbare]
  obtain ⟨sch, name, sub⟩ := attr
  cases sch <;> cases sub <;> simp [AttributePath.render]

/-! ### The numbers of a tree -/

/-- The plain text of the double reads back as the same double. -/
def Decimal.RoundTrips (x : Float) : Prop :=
  Decimal.readNumber (Decimal.Style.plain.float x).toList = x

mutual

/-- The numbers an expression compares with. -/
def Expression.numbers : Expression → List Float
  | .or left right => left.numbers ++ right.numbers
  | .term t => t.numbers

def Term.numbers : Term → List Float
  | .and left right => left.numbers ++ right.numbers
  | .factor f => f.numbers

def Factor.numbers : Factor → List Float
  | .comparison c => (c.value.bind CompareValue.asFloat?).toList
  | .group inner => inner.numbers
  | .not inner => inner.numbers
  | .valuePath _ filter => filter.numbers

end

def Path.numbers (p : Path) : List Float := (p.filter.map Expression.numbers).getD []

def Root.numbers : Root → List Float
  | .filter e => e.numbers
  | .path p => p.numbers

end ScimFilter

namespace ScimFilter.Grammar

open Lexer

variable {v : Version}

/-! ### Lexemes that derive something start and end with a token that is not whitespace -/

/-- Lexemes that are not empty and neither start nor end with whitespace. -/
structure Solid (xs : List Lexeme) : Prop where
  ne_nil : xs ≠ []
  head : ∀ x ∈ xs.head?, x.1 ≠ .whitespace
  last : ∀ x ∈ xs.getLast?, x.1 ≠ .whitespace

theorem IsAttributePath.not_whitespace {ps : List Lexeme} {attr : AttributePath}
    (h : IsAttributePath ps attr) {x : Lexeme} (hx : x ∈ ps) : x.1 ≠ .whitespace := by
  have hk := h.kinds x hx
  intro hw
  rw [hw] at hk
  exact absurd hk (by decide)

theorem IsLiteral.not_whitespace {x : Lexeme} {val : CompareValue} (h : IsLiteral x val) :
    x.1 ≠ .whitespace := by
  cases h <;> simp

theorem IsAttributePath.solid {ps : List Lexeme} {attr : AttributePath}
    (h : IsAttributePath ps attr) : Solid ps :=
  ⟨h.ne_nil, fun _ hx => h.not_whitespace (List.mem_of_head? hx),
    fun _ hx => h.not_whitespace (List.mem_of_getLast? hx)⟩

/-- An attribute path and what follows it start as the path does. -/
theorem IsAttributePath.head_append {ps : List Lexeme} {attr : AttributePath}
    (h : IsAttributePath ps attr) (ys : List Lexeme) :
    ∀ x ∈ (ps ++ ys).head?, x.1 ≠ .whitespace := by
  rw [List.head?_append_of_ne_nil _ h.ne_nil]
  exact h.solid.head

theorem Solid.logical {xs ys : List Lexeme} (h1 : Solid xs) (h2 : Solid ys) (w o w' : String) :
    Solid (xs ++ (.whitespace, w) :: (.name, o) :: (.whitespace, w') :: ys) := by
  refine ⟨by simp, ?_, ?_⟩
  · rw [List.head?_append_of_ne_nil _ h1.ne_nil]
    exact h1.head
  · obtain ⟨y, ys', rfl⟩ := List.exists_cons_of_ne_nil h2.ne_nil
    simpa [List.getLast?_append, List.getLast?_cons] using h2.last

theorem last_append_singleton {xs : List Lexeme} {z : Lexeme} (hz : z.1 ≠ .whitespace) :
    ∀ x ∈ (xs ++ [z]).getLast?, x.1 ≠ .whitespace := by
  rw [List.getLast?_concat]
  rintro x ⟨⟩
  exact hz

theorem DerivesFactor.solid {xs : List Lexeme} {f : Factor} (d : DerivesFactor v xs f) :
    Solid xs := by
  cases d with
  | not _ => exact ⟨by simp, by simp [notKeyword], last_append_singleton nofun⟩
  | group _ => exact ⟨by simp, by simp, last_append_singleton nofun⟩
  | valuePath _ hps _ _ _ _ =>
    refine ⟨by simp, ?_, last_append_singleton nofun⟩
    rw [List.append_assoc]
    exact hps.head_append _
  | present hps _ ho =>
    refine ⟨by simp, hps.head_append _, ?_⟩
    simp [ho.1]
  | compare hps _ _ _ hx =>
    refine ⟨by simp, hps.head_append _, ?_⟩
    simpa using hx.not_whitespace

theorem DerivesTerm.solid {xs : List Lexeme} {t : Term} : DerivesTerm v xs t → Solid xs
  | .factor d => d.solid
  | .and d1 d2 => Solid.logical d1.solid d2.solid _ _ _
termination_by structural d => d

theorem DerivesExpression.solid {xs : List Lexeme} {e : Expression} :
    DerivesExpression v xs e → Solid xs
  | .term d => d.solid
  | .or d1 d2 => Solid.logical d1.solid d2.solid _ _ _
termination_by structural d => d

/-! ### The canonical text of each production -/

theorem IsAttributePath.render {ps : List Lexeme} {attr : AttributePath}
    (h : IsAttributePath ps attr) : attr.render.toList = joinedLexemes ps := by
  rw [AttributePath.render_of_parse h.reads]
  simp [joinedLexemes, List.flatMap_def, Function.comp_def]

theorem IsAttributePath.readsBefore {ps : List Lexeme} {attr : AttributePath}
    (h : IsAttributePath ps attr) (hr : ReadAlone v ps) : ReadsBefore v attr.render.toList ps := by
  rw [h.render]
  exact ReadsBefore.of_readAlone hr h.solid.last

/-- The canonical text of a literal is read as a literal of the same value. -/
theorem IsLiteral.rendered {x : Lexeme} {val : CompareValue} (h : IsLiteral x val)
    (hr : ReadAlone v [x]) (hn : ∀ y ∈ val.asFloat?.toList, Decimal.RoundTrips y) :
    ∃ x', ReadsBefore v val.render.toList [x'] ∧ IsLiteral x' val := by
  cases h with
  | true => exact ⟨_, ReadsBefore.word (firstMatch_keyword v (by simp [CompareValue.render])), .true⟩
  | false => exact ⟨_, ReadsBefore.word (firstMatch_keyword v (by simp [CompareValue.render])), .false⟩
  | null => exact ⟨_, ReadsBefore.word (firstMatch_keyword v (by simp [CompareValue.render])), .null⟩
  | number text finite =>
    have hback : Decimal.RoundTrips (Decimal.readNumber text.toList) :=
      hn _ (by simp [CompareValue.asFloat?])
    have hlit := IsLiteral.number (Decimal.Style.plain.float (Decimal.readNumber text.toList))
      (by rw [hback]; exact finite)
    rw [hback] at hlit
    exact ⟨_, ReadsBefore.of_reads (Reads.plain_float v finite) (by simp), hlit⟩
  | string text =>
    obtain ⟨body, hbody⟩ := hr.string
    have hrender : (CompareValue.string (String.ofList (unquote text.toList))).render.toList =
        joinedLexemes [(.string, text)] := by
      simp [CompareValue.render, unquote, hbody, joinedLexemes]
    rw [hrender]
    exact ⟨_, ReadsBefore.of_readAlone hr (by simp), .string text⟩

/-- Two texts joined by a logical operator between single blanks. -/
theorem ReadsBefore.logical {cs ds : List Char} {xs ys : List Lexeme} (h1 : ReadsBefore v cs xs)
    (h2 : ReadsBefore v ds ys) (hys : Solid ys) {w : String} (hw : w ∈ ["and", "or"]) :
    ReadsBefore v (cs ++ ' ' :: (w.toList ++ ' ' :: ds))
      (xs ++ (.whitespace, " ") :: (.name, w) :: (.whitespace, " ") :: ys) := by
  have hword := ReadsBefore.word (v := v) (firstMatch_keyword v (w := w) (by
    simp only [List.mem_cons, List.not_mem_nil, or_false] at hw ⊢
    rcases hw with rfl | rfl <;> simp))
  have hright := hword.append (h2.blank hys.ne_nil hys.head) (by simpa using stopper_space)
  exact h1.append (hright.blank (by simp) (by simp)) (by simpa using stopper_space)

variable {ps : List Lexeme} {attr : AttributePath}

/-- The canonical text of a presence test is read as one. -/
theorem rendered_present (hps : IsAttributePath ps attr) (hnot : ps.head? ≠ some notKeyword)
    (hr : ReadAlone v ps) :
    ∃ ys, ReadsBefore v (Factor.comparison ⟨attr, .present, none⟩).render.toList ys ∧
      DerivesFactor v ys (.comparison ⟨attr, .present, none⟩) := by
  have htext : (Factor.comparison ⟨attr, .present, none⟩).render.toList =
      attr.render.toList ++ ' ' :: Operator.present.word.toList := by
    simp [Factor.render, Comparison.render]
  have hop := ReadsBefore.word (v := v) (firstMatch_operator v .present)
  refine ⟨ps ++ [(.whitespace, " "), (.name, Operator.present.word)], ?_,
    .present hps hnot ⟨rfl, Operator.ofWord?_word .present⟩⟩
  rw [htext]
  exact (hps.readsBefore hr).append (hop.blank (by simp) (by simp)) (by simpa using stopper_space)

/-- The canonical text of a comparison with a literal is read as one. -/
theorem rendered_compare {op : Operator} {val : CompareValue} {x : Lexeme}
    (hps : IsAttributePath ps attr) (hnot : ps.head? ≠ some notKeyword) (hop : op ≠ .present)
    (hx : IsLiteral x val) (hr : ReadAlone v ps) (hrx : ReadAlone v [x])
    (hn : ∀ y ∈ val.asFloat?.toList, Decimal.RoundTrips y) :
    ∃ ys, ReadsBefore v (Factor.comparison ⟨attr, op, some val⟩).render.toList ys ∧
      DerivesFactor v ys (.comparison ⟨attr, op, some val⟩) := by
  have htext : (Factor.comparison ⟨attr, op, some val⟩).render.toList =
      attr.render.toList ++ ' ' :: (op.word.toList ++ ' ' :: val.render.toList) := by
    simp [Factor.render, Comparison.render]
  obtain ⟨x', hval, hx'⟩ := hx.rendered hrx hn
  have hword := ReadsBefore.word (v := v) (firstMatch_operator v op)
  have hright := hword.append (hval.blank (by simp) (by simpa using hx'.not_whitespace))
    (by simpa using stopper_space)
  refine ⟨ps ++ [(.whitespace, " "), (.name, op.word), (.whitespace, " "), x'], ?_,
    .compare hps hnot ⟨rfl, Operator.ofWord?_word op⟩ hop hx'⟩
  rw [htext]
  exact (hps.readsBefore hr).append (hright.blank (by simp) (by simp)) (by simpa using stopper_space)

theorem openBracket_mem (hv : v.supportsValueFilters = true) :
    ('[', TokenKind.openBracket) ∈ punctuation v := by
  simp [punctuation, hv]

theorem closeBracket_mem (hv : v.supportsValueFilters = true) :
    (']', TokenKind.closeBracket) ∈ punctuation v := by
  simp [punctuation, hv]

theorem openParen_mem : ('(', TokenKind.openParen) ∈ punctuation v := by
  simp [punctuation]

theorem closeParen_mem : (')', TokenKind.closeParen) ∈ punctuation v := by
  simp [punctuation]

theorem dot_mem : ('.', TokenKind.dot) ∈ punctuation v := by
  simp [punctuation]

variable {e : Expression} {zs : List Lexeme}

/-- A text between parentheses is read between parenthesis tokens. -/
theorem ReadsBefore.parenthesized {cs : List Char} (hin : ReadsBefore v cs zs) :
    ReadsBefore v ('(' :: cs ++ [')']) ((.openParen, "(") :: zs ++ [(.closeParen, ")")]) :=
  ReadsBefore.enclosed ReadsBefore.nil hin ReadsBefore.nil openParen_mem closeParen_mem
    (by decide) (by decide)

/-- `not`, a blank and a text between parentheses. -/
theorem ReadsBefore.negated {cs : List Char} (hin : ReadsBefore v cs zs) :
    ReadsBefore v ("not".toList ++ ' ' :: ('(' :: cs ++ [')']))
      (notKeyword :: (.whitespace, " ") :: (.openParen, "(") :: zs ++ [(.closeParen, ")")]) :=
  (ReadsBefore.word (firstMatch_keyword v (w := "not") (by simp))).append
    ((ReadsBefore.parenthesized hin).blank (by simp) (by simp)) (by simpa using stopper_space)

/-- A text between brackets after the text of an attribute path, and a text after them. -/
theorem ReadsBefore.bracketed {tl : List Lexeme} {cs ds ts : List Char}
    (hv : v.supportsValueFilters = true) (h1 : ReadsBefore v cs ps) (hin : ReadsBefore v ds zs)
    (htl : ReadsBefore v ts tl) :
    ReadsBefore v (cs ++ '[' :: ds ++ ']' :: ts)
      (ps ++ (.openBracket, "[") :: zs ++ (.closeBracket, "]") :: tl) :=
  ReadsBefore.enclosed h1 hin htl (openBracket_mem hv) (closeBracket_mem hv) (by decide) (by decide)

/-- The canonical text of a value path is read as one. -/
theorem rendered_valuePath (hv : v.supportsValueFilters = true) (hps : IsAttributePath ps attr)
    (hnot : ps.head? ≠ some notKeyword) (hlook : ValuePathLookahead ps) (hr : ReadAlone v ps)
    (hin : ReadsBefore v e.render.toList zs) (d : DerivesExpression v zs e)
    (hnest : e.containsValuePath = false) :
    ∃ ys, ReadsBefore v (Factor.valuePath attr e).render.toList ys ∧
      DerivesFactor v ys (.valuePath attr e) := by
  have htext : (Factor.valuePath attr e).render.toList =
      attr.render.toList ++ '[' :: e.render.toList ++ ']' :: [] := by
    simp [Factor.render]
  rw [htext]
  exact ⟨_, ReadsBefore.bracketed hv (hps.readsBefore hr) hin ReadsBefore.nil,
    .valuePath hv hps hnot hlook d hnest⟩

/-- The canonical text of a group is read as one. -/
theorem rendered_group (hin : ReadsBefore v e.render.toList zs) (d : DerivesExpression v zs e) :
    ∃ ys, ReadsBefore v (Factor.group e).render.toList ys ∧ DerivesFactor v ys (.group e) := by
  have htext : (Factor.group e).render.toList = '(' :: e.render.toList ++ [')'] := by
    simp [Factor.render]
  rw [htext]
  exact ⟨_, ReadsBefore.parenthesized hin, .group d⟩

/-- The canonical text of a negation is read as one. -/
theorem rendered_not (hin : ReadsBefore v e.render.toList zs) (d : DerivesExpression v zs e) :
    ∃ ys, ReadsBefore v (Factor.not e).render.toList ys ∧ DerivesFactor v ys (.not e) := by
  have htext : (Factor.not e).render.toList =
      "not".toList ++ ' ' :: ('(' :: e.render.toList ++ [')']) := by
    simp [Factor.render]
  rw [htext]
  exact ⟨_, ReadsBefore.negated hin, .not d⟩

/-- The canonical text of a disjunction is read as one. -/
theorem rendered_or {t : Term} {xs ys : List Lexeme} (h1 : ReadsBefore v t.render.toList xs)
    (d1 : DerivesTerm v xs t) (h2 : ReadsBefore v e.render.toList ys) (d2 : DerivesExpression v ys e) :
    ∃ zs, ReadsBefore v (Expression.or t e).render.toList zs ∧ DerivesExpression v zs (.or t e) := by
  have htext : (Expression.or t e).render.toList =
      t.render.toList ++ ' ' :: ("or".toList ++ ' ' :: e.render.toList) := by
    simp [Expression.render]
  rw [htext]
  exact ⟨_, ReadsBefore.logical h1 h2 d2.solid (by simp), .or d1 d2⟩

/-- The canonical text of a conjunction is read as one. -/
theorem rendered_and {f : Factor} {t : Term} {xs ys : List Lexeme}
    (h1 : ReadsBefore v f.render.toList xs) (d1 : DerivesFactor v xs f)
    (h2 : ReadsBefore v t.render.toList ys) (d2 : DerivesTerm v ys t) :
    ∃ zs, ReadsBefore v (Term.and f t).render.toList zs ∧ DerivesTerm v zs (.and f t) := by
  have htext : (Term.and f t).render.toList =
      f.render.toList ++ ' ' :: ("and".toList ++ ' ' :: t.render.toList) := by
    simp [Term.render]
  rw [htext]
  exact ⟨_, ReadsBefore.logical h1 h2 d2.solid (by simp), .and d1 d2⟩

mutual

/-- Lexemes read alone that derive an expression: its canonical text is read, before any text
that starts with a stopper, as lexemes that derive it again. -/
theorem DerivesExpression.rendered {xs : List Lexeme} {e : Expression}
    (d : DerivesExpression v xs e) (hr : ReadAlone v xs) (hn : ∀ x ∈ e.numbers, Decimal.RoundTrips x) :
    ∃ ys, ReadsBefore v e.render.toList ys ∧ DerivesExpression v ys e :=
  match d, hr, hn with
  | .term d, hr, hn => by
    obtain ⟨ys, hys, d'⟩ := d.rendered hr hn
    exact ⟨ys, hys, .term d'⟩
  | .or d1 d2, hr, hn => by
    simp only [Expression.numbers, List.mem_append] at hn
    obtain ⟨ys1, h1, d1'⟩ := d1.rendered (hr.left (by simp [stopKinds]) d1.solid.last)
      fun x hx => hn x (.inl hx)
    obtain ⟨ys2, h2, d2'⟩ := d2.rendered hr.right.tail.tail.tail fun x hx => hn x (.inr hx)
    exact rendered_or h1 d1' h2 d2'
termination_by structural d

theorem DerivesTerm.rendered {xs : List Lexeme} {t : Term}
    (d : DerivesTerm v xs t) (hr : ReadAlone v xs) (hn : ∀ x ∈ t.numbers, Decimal.RoundTrips x) :
    ∃ ys, ReadsBefore v t.render.toList ys ∧ DerivesTerm v ys t :=
  match d, hr, hn with
  | .factor d, hr, hn => by
    obtain ⟨ys, hys, d'⟩ := d.rendered hr hn
    exact ⟨ys, hys, .factor d'⟩
  | .and d1 d2, hr, hn => by
    simp only [Term.numbers, List.mem_append] at hn
    obtain ⟨ys1, h1, d1'⟩ := d1.rendered (hr.left (by simp [stopKinds]) d1.solid.last)
      fun x hx => hn x (.inl hx)
    obtain ⟨ys2, h2, d2'⟩ := d2.rendered hr.right.tail.tail.tail fun x hx => hn x (.inr hx)
    exact rendered_and h1 d1' h2 d2'
termination_by structural d

theorem DerivesFactor.rendered {xs : List Lexeme} {f : Factor}
    (d : DerivesFactor v xs f) (hr : ReadAlone v xs) (hn : ∀ x ∈ f.numbers, Decimal.RoundTrips x) :
    ∃ ys, ReadsBefore v f.render.toList ys ∧ DerivesFactor v ys f :=
  match d, hr, hn with
  | .not d, hr, hn => by
    simp only [List.cons_append] at hr
    obtain ⟨ys, hys, d'⟩ := d.rendered (hr.tail.tail.tail.left (by simp [stopKinds]) d.solid.last) hn
    exact rendered_not hys d'
  | .group d, hr, hn => by
    simp only [List.cons_append] at hr
    obtain ⟨ys, hys, d'⟩ := d.rendered (hr.tail.left (by simp [stopKinds]) d.solid.last) hn
    exact rendered_group hys d'
  | .valuePath hv hps hnot hlook d hnest, hr, hn => by
    simp only [List.append_assoc, List.cons_append] at hr
    have hrp := hr.left (by simp [stopKinds]) hps.solid.last
    obtain ⟨ys, hys, d'⟩ := d.rendered (hr.right.tail.left (by simp [stopKinds]) d.solid.last) hn
    exact rendered_valuePath hv hps hnot hlook hrp hys d' hnest
  | .present hps hnot _, hr, _ =>
    rendered_present hps hnot (hr.left (by simp [stopKinds]) hps.solid.last)
  | .compare hps hnot _ hop hx, hr, hn => by
    simp only [Factor.numbers, Option.bind_some] at hn
    exact rendered_compare hps hnot hop hx (hr.left (by simp [stopKinds]) hps.solid.last)
      hr.right.tail.tail.tail hn
termination_by structural d

end

/-- The canonical text of a path with a value filter and no sub-attribute is read as one. -/
theorem rendered_filtered (hv : v.supportsValueFilters = true) (hps : IsAttributePath ps attr)
    (hr : ReadAlone v ps) (hin : ReadsBefore v e.render.toList zs) (d : DerivesExpression v zs e)
    (hnest : e.containsValuePath = false) :
    ∃ ys, ReadsBefore v (Path.render ⟨attr, some e, none⟩).toList ys ∧
      DerivesPath v ys ⟨attr, some e, none⟩ := by
  have htext : (Path.render ⟨attr, some e, none⟩).toList =
      attr.render.toList ++ '[' :: e.render.toList ++ ']' :: [] := by
    simp [Path.render]
  rw [htext]
  exact ⟨_, ReadsBefore.bracketed hv (hps.readsBefore hr) hin ReadsBefore.nil, .filtered hps d hnest⟩

/-- Lexemes read alone that derive a path: its canonical text is read, before any text that
starts with a stopper, as lexemes that derive it again. -/
theorem DerivesPath.rendered {xs : List Lexeme} {p : Path} (hv : v.supportsValueFilters = true)
    (d : DerivesPath v xs p) (hr : ReadAlone v xs) (hn : ∀ x ∈ p.numbers, Decimal.RoundTrips x) :
    ∃ ys, ReadsBefore v p.render.toList ys ∧ DerivesPath v ys p := by
  cases d with
  | @bare ps attr hps =>
    have htext : (Path.render ⟨attr, none, none⟩).toList = attr.render.toList := by
      simp [Path.render]
    rw [htext]
    exact ⟨_, hps.readsBefore hr, .bare hps⟩
  | @filtered ps xs attr e b c hps d hnest =>
    simp only [List.append_assoc, List.cons_append] at hr
    obtain ⟨zs, hin, d'⟩ := d.rendered (hr.right.tail.left (by simp [stopKinds]) d.solid.last)
      (by simpa [Path.numbers] using hn)
    exact rendered_filtered hv hps (hr.left (by simp [stopKinds]) hps.solid.last) hin d' hnest
  | @dotted ps xs attr e b c _ hps d hnest =>
    -- a dot with no sub-attribute after it is not written again
    simp only [List.append_assoc, List.cons_append] at hr
    obtain ⟨zs, hin, d'⟩ := d.rendered (hr.right.tail.left (by simp [stopKinds]) d.solid.last)
      (by simpa [Path.numbers] using hn)
    exact rendered_filtered hv hps (hr.left (by simp [stopKinds]) hps.solid.last) hin d' hnest
  | @subAttribute ps xs attr e b c _ n hps d hnest =>
    simp only [List.append_assoc, List.cons_append] at hr
    obtain ⟨zs, hin, d'⟩ := d.rendered (hr.right.tail.left (by simp [stopKinds]) d.solid.last)
      (by simpa [Path.numbers] using hn)
    have hname : ReadsBefore v n.toList [(.name, n)] := by
      simpa [joinedLexemes] using ReadsBefore.of_readAlone hr.right.tail.right.tail.tail (by simp)
    have htext : (Path.render ⟨attr, some e, some n⟩).toList =
        attr.render.toList ++ '[' :: e.render.toList ++ ']' :: '.' :: n.toList := by
      simp [Path.render]
    rw [htext]
    exact ⟨_, ReadsBefore.bracketed hv (hps.readsBefore (hr.left (by simp [stopKinds]) hps.solid.last))
      hin (ReadsBefore.punctuation_cons dot_mem hname), .subAttribute hps d' hnest⟩

end ScimFilter.Grammar

namespace ScimFilter

open Grammar Lexer

theorem scan_of_read {m : Mode} {v : Version} {s : String} {root : Root}
    (h : Reader.read ⟨m, v⟩ s = .ok root) : ∃ ts, scimScan v s = .ok ts := by
  cases hs : scimScan v s with
  | ok ts => exact ⟨ts, rfl⟩
  | error e =>
    have ht : tokenize v s = .error (FilterError.ofUnknownToken e) := by
      simp [tokenize, hs, Except.mapError]
    -- both modes scan first, so an error of the scan is the reader's error
    cases m with
    | filter =>
      rw [Reader.read, readFilter, ht] at h
      cases h
    | path =>
      rw [Reader.read, ht] at h
      cases h

theorem scan_of_readFilter {v : Version} {s : String} {e : Expression}
    (h : readFilter s v = .ok e) : ∃ ts, scimScan v s = .ok ts :=
  scan_of_read (m := .filter) (show Reader.read ⟨.filter, v⟩ s = .ok (.filter e) by
    rw [Reader.read, h]
    rfl)

/-- What a reader reads from its canonical text is what it read: each tree that a reader
makes of a text, written in canonical form, is read back as the same tree, and so is written
the same again. Numbers are assumed to read back from their plain text. -/
theorem read_render {m : Mode} {v : Version} {reader : Reader} {s : String} {root : Root}
    (hnew : Reader.new m v = .ok reader) (hread : reader.read s = .ok root)
    (hn : ∀ x ∈ root.numbers, Decimal.RoundTrips x) : reader.read root.render = .ok root := by
  obtain ⟨rfl, hpath⟩ := Reader.new_eq_ok.mp hnew
  obtain ⟨ts, hscan⟩ := scan_of_read hread
  have hr : ReadAlone v (lexemes ts) := by
    have h := reads_of_scanFrom hscan
    rw [h.text_eq, List.append_nil] at h
    exact h
  have hd := (read_eq_ok_iff hscan).mp hread
  cases root with
  | filter e =>
    obtain ⟨hm, d⟩ := hd
    obtain ⟨ys, hys, d'⟩ := d.rendered hr hn
    obtain ⟨ts', hscan', rfl⟩ := hys.scan
    exact (read_eq_ok_iff hscan').mpr ⟨hm, d'⟩
  | path p =>
    obtain ⟨hm, d⟩ := hd
    obtain ⟨ys, hys, d'⟩ := d.rendered (hpath hm) hr hn
    obtain ⟨ts', hscan', rfl⟩ := hys.scan
    exact (read_eq_ok_iff hscan').mpr ⟨hm, d'⟩

theorem filter_read_back_from_canonical_text :
    Reader.new .filter .v2 = .ok ⟨.filter, .v2⟩ ∧
    Reader.read ⟨.filter, .v2⟩ "a[b eq \"x\"] and not (c gt -2.50e3)" =
      .ok (.filter (.term (.and (.valuePath ⟨none, "a", none⟩
        (.term (.factor (.comparison ⟨⟨none, "b", none⟩, .equal, some (.string "x")⟩))))
        (.factor (.not (.term (.factor (.comparison ⟨⟨none, "c", none⟩, .greaterThan,
          some (.number (Decimal.readNumber "-2.50e3".toList))⟩)))))))) ∧
    (∀ x ∈ [Decimal.readNumber "-2.50e3".toList], Decimal.RoundTrips x) ∧
    Reader.read ⟨.filter, .v2⟩ (Root.filter (.term (.and (.valuePath ⟨none, "a", none⟩
        (.term (.factor (.comparison ⟨⟨none, "b", none⟩, .equal, some (.string "x")⟩))))
        (.factor (.not (.term (.factor (.comparison ⟨⟨none, "c", none⟩, .greaterThan,
          some (.number (Decimal.readNumber "-2.50e3".toList))⟩)))))))).render =
      .ok (.filter (.term (.and (.valuePath ⟨none, "a", none⟩
        (.term (.factor (.comparison ⟨⟨none, "b", none⟩, .equal, some (.string "x")⟩))))
        (.factor (.not (.term (.factor (.comparison ⟨⟨none, "c", none⟩, .greaterThan,
          some (.number (Decimal.readNumber "-2.50e3".toList))⟩)))))))) := by
  have hnew : Reader.new .filter .v2 = .ok ⟨.filter, .v2⟩ := by decide
  have hlex : (scimScan .v2 "a[b eq \"x\"] and not (c gt -2.50e3)").map lexemes =
      .ok [(.name, "a"), (.openBracket, "["), (.name, "b"), (.whitespace, " "), (.name, "eq"),
        (.whitespace, " "), (.string, "\"x\""), (.closeBracket, "]"), (.whitespace, " "),
        (.name, "and"), (.whitespace, " "), (.name, "not"), (.whitespace, " "), (.openParen, "("),
        (.name, "c"), (.whitespace, " "), (.name, "gt"), (.whitespace, " "), (.number, "-2.50e3"),
        (.closeParen, ")")] := by
    decide +kernel
  obtain ⟨ts, hscan, hts⟩ := except_map_eq_ok.mp hlex
  have ha : IsAttributePath [(.name, "a")] ⟨none, "a", none⟩ := ⟨by simp, by decide, by decide⟩
  have hb : IsAttributePath [(.name, "b")] ⟨none, "b", none⟩ := ⟨by simp, by decide, by decide⟩
  have hc : IsAttributePath [(.name, "c")] ⟨none, "c", none⟩ := ⟨by simp, by decide, by decide⟩
  have hfinite : (Decimal.readNumber "-2.50e3".toList).isFinite = true := by decide +kernel
  have hx : String.ofList (unquote "\"x\"".toList) = "x" := by decide
  have d : DerivesExpression .v2 [(.name, "a"), (.openBracket, "["), (.name, "b"),
      (.whitespace, " "), (.name, "eq"), (.whitespace, " "), (.string, "\"x\""), (.closeBracket, "]"),
      (.whitespace, " "), (.name, "and"), (.whitespace, " "), (.name, "not"), (.whitespace, " "),
      (.openParen, "("), (.name, "c"), (.whitespace, " "), (.name, "gt"), (.whitespace, " "),
      (.number, "-2.50e3"), (.closeParen, ")")] _ :=
    .term (.and (.valuePath rfl ha (by decide) (fun _ hx => absurd hx List.not_mem_nil)
      (.term (.factor (.compare hb (by decide) ⟨rfl, Operator.ofWord?_word .equal⟩ (by decide)
        (.string "\"x\"")))) rfl)
      (.factor (.not (.term (.factor (.compare hc (by decide)
        ⟨rfl, Operator.ofWord?_word .greaterThan⟩ (by decide) (.number _ hfinite)))))))
  rw [← hts, hx] at d
  have hread : Reader.read ⟨.filter, .v2⟩ _ = .ok (.filter _) := (read_eq_ok_iff hscan).mpr ⟨rfl, d⟩
  have hback : Decimal.RoundTrips (Decimal.readNumber "-2.50e3".toList) :=
    congrArg Float.ofModel (by decide +kernel)
  have hn : ∀ x ∈ [Decimal.readNumber "-2.50e3".toList], Decimal.RoundTrips x := by
    intro x hx
    rw [List.mem_singleton.mp hx]
    exact hback
  exact ⟨hnew, hread, hn, read_render hnew hread hn⟩

end ScimFilter
