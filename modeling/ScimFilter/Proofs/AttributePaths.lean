import ScimFilter.Proofs.Nesting
/-!
Reading a raw attribute path. The schema is what stands before the last colon, and the name
part after it holds the name and, after one dot, the sub-attribute. `parse_attribute_path`
gives the whole behaviour of `AttributePath.parse`: which texts it reads and what it reads
from them, which error it gives for the others, and that a path whose name and sub-attribute
hold no separator reads back from its text.
-/

namespace ScimFilter

/-! ### Splitting at separators -/

/-- A split has one piece more than there are separators. -/
theorem splitAtEach_length (sep : Char) (cs : List Char) :
    (splitAtEach sep cs).length = cs.count sep + 1 := by
  induction cs with
  | nil => rfl
  | cons c rest ih =>
    simp only [splitAtEach]
    split
    · rename_i hc
      subst hc
      simp [ih]
    · rename_i hc
      split
      · rename_i piece more hpieces
        rw [hpieces] at ih
        simpa [List.count_cons, hc] using ih
      · rename_i hpieces
        exact absurd hpieces (splitAtEach_ne_nil _ rest)

/-- The first piece is the text before the first separator. -/
theorem splitAtEach_append_sep {sep : Char} {xs : List Char} (h : sep ∉ xs) (ys : List Char) :
    splitAtEach sep (xs ++ sep :: ys) = xs :: splitAtEach sep ys := by
  induction xs with
  | nil => simp [splitAtEach]
  | cons c rest ih =>
    have hc : c ≠ sep := fun hc => h (hc ▸ List.mem_cons_self)
    simp only [List.cons_append, splitAtEach, hc, if_false,
      ih (fun hr => h (List.mem_cons_of_mem c hr))]

/-- A separator with none after it is the last one. -/
theorem splitAtLast_append_sep {sep : Char} {bs : List Char} (h : sep ∉ bs) (as : List Char) :
    splitAtLast sep (as ++ sep :: bs) = some (as, bs) := by
  have htake : (as ++ sep :: bs).reverse.takeWhile (· ≠ sep) = bs.reverse := by
    have hne : ∀ c ∈ bs.reverse, decide (c ≠ sep) = true := fun c hc => by
      have : c ≠ sep := fun e => h (e ▸ List.mem_reverse.mp hc)
      simpa using this
    rw [List.reverse_append, List.reverse_cons, List.append_assoc, List.takeWhile_append_of_pos hne]
    simp
  have hlt : bs.length < (as ++ sep :: bs).length := by
    simp only [List.length_append, List.length_cons]
    omega
  have hlen : (as ++ sep :: bs).length - bs.length - 1 = as.length := by
    simp only [List.length_append, List.length_cons]
    omega
  simp only [splitAtLast, htake, List.reverse_reverse, hlt, if_true, hlen, List.take_left]

/-- A text that holds a separator is cut at its last one. -/
theorem exists_eq_append_last {sep : Char} {cs : List Char} (h : sep ∈ cs) :
    ∃ as bs, cs = as ++ sep :: bs ∧ sep ∉ bs := by
  induction cs with
  | nil => cases h
  | cons c rest ih =>
    by_cases hr : sep ∈ rest
    · obtain ⟨as, bs, rfl, hbs⟩ := ih hr
      exact ⟨c :: as, bs, rfl, hbs⟩
    · have hc : c = sep := by simpa [hr, eq_comm] using h
      exact ⟨[], rest, by simp [hc], hr⟩

/-! ### The schema and the name part -/

/-- A raw path split at its last colon: the schema before it and the name part after it,
which holds no colon. A text with no colon is all name part, and has no schema. -/
inductive SchemaSplit (r : String) : Option String → List Char → Prop
  | unqualified (h : ':' ∉ r.toList) : SchemaSplit r none r.toList
  | qualified (schema bare : List Char) (heq : r.toList = schema ++ ':' :: bare) (h : ':' ∉ bare) :
      SchemaSplit r (some (String.ofList schema)) bare

theorem SchemaSplit.exists (r : String) : ∃ schema bare, SchemaSplit r schema bare := by
  by_cases h : ':' ∈ r.toList
  · obtain ⟨as, bs, heq, hbs⟩ := exists_eq_append_last h
    exact ⟨_, _, .qualified as bs heq hbs⟩
  · exact ⟨_, _, .unqualified h⟩

/-- A text made of a schema and a colon, if there is a schema, then a name part with no colon,
splits there. -/
theorem SchemaSplit.of_toList {r : String} {schema : Option String} {bare : List Char}
    (hbare : ':' ∉ bare) (h : r.toList = schema.elim [] (fun s => s.toList ++ [':']) ++ bare) :
    SchemaSplit r schema bare := by
  cases schema with
  | none =>
    simp only [Option.elim, List.nil_append] at h
    have hs := SchemaSplit.unqualified (r := r) (h ▸ hbare)
    rwa [h] at hs
  | some s =>
    have hs := SchemaSplit.qualified s.toList bare (by simpa using h) hbare
    rwa [String.ofList_toList] at hs

/-- The name part holds no dot, exactly one, or more. -/
theorem dot_cases (bare : List Char) :
    '.' ∉ bare ∨ (∃ name sub, bare = name ++ '.' :: sub ∧ '.' ∉ name ∧ '.' ∉ sub) ∨
      2 ≤ bare.count '.' := by
  by_cases hmem : '.' ∈ bare
  · by_cases hmany : 2 ≤ bare.count '.'
    · exact .inr (.inr hmany)
    · obtain ⟨name, sub, rfl⟩ := List.append_of_mem hmem
      have hnone : name.count '.' = 0 ∧ sub.count '.' = 0 := by
        simp only [List.count_append, List.count_cons_self] at hmany
        omega
      exact .inr (.inl ⟨name, sub, rfl, List.count_eq_zero.mp hnone.1, List.count_eq_zero.mp hnone.2⟩)
  · exact .inl hmem

theorem takeWhile_of_dot_free {bare : List Char} (h : '.' ∉ bare) :
    bare.takeWhile (· ≠ '.') = bare :=
  List.takeWhile_eq_self_iff.mpr fun c hc => by
    have hne : c ≠ '.' := fun e => h (e ▸ hc)
    simpa using hne

section OneDot

variable {name : List Char} (hname : '.' ∉ name) (sub : List Char)
include hname

theorem takeWhile_append_dot : (name ++ '.' :: sub).takeWhile (· ≠ '.') = name := by
  rw [List.takeWhile_append_of_pos (fun c hc => by simpa using fun e : c = '.' => hname (e ▸ hc))]
  simp

theorem dropWhile_append_dot : (name ++ '.' :: sub).dropWhile (· ≠ '.') = '.' :: sub := by
  rw [List.dropWhile_append_of_pos (fun c hc => by simpa using fun e : c = '.' => hname (e ▸ hc))]
  simp

end OneDot

namespace AttributePath

/-- What `parse` makes of the pieces of the name part, once the schema is split off. -/
def ofPieces (raw : String) (schema : Option String) :
    List (List Char) → Except AttributePathError AttributePath
  | _ :: _ :: _ :: _ => .error (.tooManySubAttributes raw)
  | name :: rest =>
    if name.isEmpty then .error (.emptyName raw)
    else match rest with
      | [] => .ok ⟨schema, String.ofList name, none⟩
      | sub :: _ =>
        if sub.isEmpty then .error (.emptySubAttribute raw)
        else .ok ⟨schema, String.ofList name, some (String.ofList sub)⟩
  | [] => .error (.emptyName raw)

variable {r : String} {schema : Option String} {bare : List Char}

/-- Past the schema, `parse` looks only at the pieces of the name part between dots. -/
theorem parse_eq_ofPieces (hs : SchemaSplit r schema bare) :
    parse r = ofPieces r schema (splitAtEach '.' bare) := by
  cases hs with
  | unqualified h =>
    simp only [parse, splitAtLast_of_not_mem h]
    generalize splitAtEach '.' r.toList = pieces
    rcases pieces with _ | ⟨name, _ | ⟨sub, _ | ⟨_, _⟩⟩⟩ <;> rfl
  | qualified as bs heq h =>
    simp only [parse, heq, splitAtLast_append_sep h]
    generalize splitAtEach '.' bare = pieces
    rcases pieces with _ | ⟨name, _ | ⟨sub, _ | ⟨_, _⟩⟩⟩ <;> rfl

theorem parse_of_two_le_count (hs : SchemaSplit r schema bare) (h : 2 ≤ bare.count '.') :
    parse r = .error (.tooManySubAttributes r) := by
  rw [parse_eq_ofPieces hs]
  have hlen := splitAtEach_length '.' bare
  generalize splitAtEach '.' bare = pieces at hlen
  rcases pieces with _ | ⟨_, _ | ⟨_, _ | ⟨_, _⟩⟩⟩
  · simp at hlen
  · simp at hlen
    omega
  · simp at hlen
    omega
  · rfl

theorem parse_of_dot_free (hs : SchemaSplit r schema bare) (h : '.' ∉ bare) :
    parse r = if bare = [] then .error (.emptyName r) else .ok ⟨schema, String.ofList bare, none⟩ := by
  rw [parse_eq_ofPieces hs, splitAtEach_of_not_mem h]
  simp [ofPieces]

theorem parse_of_one_dot {name sub : List Char} (hs : SchemaSplit r schema (name ++ '.' :: sub))
    (hname : '.' ∉ name) (hsub : '.' ∉ sub) :
    parse r = if name = [] then .error (.emptyName r)
      else if sub = [] then .error (.emptySubAttribute r)
      else .ok ⟨schema, String.ofList name, some (String.ofList sub)⟩ := by
  rw [parse_eq_ofPieces hs, splitAtEach_append_sep hname, splitAtEach_of_not_mem hsub]
  simp [ofPieces]

/-- `parse` in terms of the first dot of the name part: the name is the text before it and
the sub-attribute the text after it. -/
theorem parse_eq_cases (hs : SchemaSplit r schema bare) :
    parse r =
      if 2 ≤ bare.count '.' then .error (.tooManySubAttributes r)
      else if bare.takeWhile (· ≠ '.') = [] then .error (.emptyName r)
      else if '.' ∈ bare ∧ (bare.dropWhile (· ≠ '.')).tail = [] then .error (.emptySubAttribute r)
      else .ok ⟨schema, String.ofList (bare.takeWhile (· ≠ '.')),
        if '.' ∈ bare then some (String.ofList (bare.dropWhile (· ≠ '.')).tail) else none⟩ := by
  rcases dot_cases bare with hfree | ⟨name, sub, rfl, hname, hsub⟩ | hmany
  · have hcount : bare.count '.' = 0 := List.count_eq_zero.mpr hfree
    rw [parse_of_dot_free hs hfree, takeWhile_of_dot_free hfree]
    simp [hcount, hfree]
  · have hcount : (name ++ '.' :: sub).count '.' = 1 := by
      simp [List.count_append, List.count_eq_zero.mpr hname, List.count_eq_zero.mpr hsub]
    rw [parse_of_one_dot hs hname hsub, takeWhile_append_dot hname, dropWhile_append_dot hname]
    simp [hcount]
  · rw [parse_of_two_le_count hs hmany]
    simp [hmany]

/-- A path whose name and sub-attribute are not empty and hold no separator reads back from
its text, whatever its schema. -/
theorem parse_render {p : AttributePath} (hname : p.name ≠ "") (hnc : ':' ∉ p.name.toList)
    (hnd : '.' ∉ p.name.toList)
    (hsub : ∀ sub ∈ p.subAttribute, sub ≠ "" ∧ ':' ∉ sub.toList ∧ '.' ∉ sub.toList) :
    parse p.render = .ok p := by
  obtain ⟨schema, name, sub⟩ := p
  have hname' : name.toList ≠ [] := by simpa using hname
  cases sub with
  | none =>
    have hs : SchemaSplit (render ⟨schema, name, none⟩) schema name.toList :=
      .of_toList hnc (by cases schema <;> simp [render])
    simp [parse_of_dot_free hs hnd, hname']
  | some t =>
    obtain ⟨ht, htc, htd⟩ := hsub t rfl
    have ht' : t.toList ≠ [] := by simpa using ht
    have hs : SchemaSplit (render ⟨schema, name, some t⟩) schema (name.toList ++ '.' :: t.toList) :=
      .of_toList (by simp [hnc, htc]) (by cases schema <;> simp [render])
    simp [parse_of_one_dot hs hnd htd, hname', ht']

/-- How a raw attribute path reads. Past its last colon the text must hold at most one dot,
with a name before it and, if there is a dot, a sub-attribute after it; the path read then has
the text before the last colon as its schema and is written back as the text it was read from.
Any other text is refused for too many dots, else for an empty name, else for an empty
sub-attribute. A path whose name and sub-attribute hold no separator reads back from its
text. -/
theorem parse_attribute_path (hs : SchemaSplit r schema bare) :
    ((∃ p, parse r = .ok p) ↔ bare.count '.' ≤ 1 ∧ bare.takeWhile (· ≠ '.') ≠ [] ∧
        ('.' ∈ bare → (bare.dropWhile (· ≠ '.')).tail ≠ [])) ∧
    (∀ p, parse r = .ok p → p.schema = schema ∧ p.render = r) ∧
    (∀ e, parse r = .error e →
      e = if 2 ≤ bare.count '.' then .tooManySubAttributes r
        else if bare.takeWhile (· ≠ '.') = [] then .emptyName r else .emptySubAttribute r) ∧
    ∀ p : AttributePath, p.name ≠ "" → ':' ∉ p.name.toList → '.' ∉ p.name.toList →
      (∀ sub ∈ p.subAttribute, sub ≠ "" ∧ ':' ∉ sub.toList ∧ '.' ∉ sub.toList) →
      parse p.render = .ok p := by
  refine ⟨?_, fun p hp => ⟨?_, render_of_parse hp⟩, fun e he => ?_, fun p => parse_render⟩
  · rw [parse_eq_cases hs]
    -- only the count, the name and the sub-attribute matter, not how they are computed
    generalize bare.count '.' = n, bare.takeWhile (· ≠ '.') = name,
      (bare.dropWhile (· ≠ '.')).tail = sub
    split_ifs <;> simp_all
    omega
  · rw [parse_eq_cases hs] at hp
    split_ifs at hp <;> cases hp <;> rfl
  · rw [parse_eq_cases hs] at he
    generalize bare.count '.' = n, bare.takeWhile (· ≠ '.') = name,
      (bare.dropWhile (· ≠ '.')).tail = sub at he ⊢
    split_ifs at he <;> cases he <;> simp_all

/-- A schema URN holds colons and dots of its own; only the dot after the last colon counts. -/
theorem parse_schema_qualified_sub_attribute :
    SchemaSplit "urn:ietf:params:scim:schemas:core:2.0:User:name.givenName"
      (some "urn:ietf:params:scim:schemas:core:2.0:User") "name.givenName".toList ∧
    ((∃ p, parse "urn:ietf:params:scim:schemas:core:2.0:User:name.givenName" = .ok p) ↔
        "name.givenName".toList.count '.' ≤ 1 ∧ "name.givenName".toList.takeWhile (· ≠ '.') ≠ [] ∧
        ('.' ∈ "name.givenName".toList →
          ("name.givenName".toList.dropWhile (· ≠ '.')).tail ≠ [])) ∧
    (∀ p, parse "urn:ietf:params:scim:schemas:core:2.0:User:name.givenName" = .ok p →
      p.schema = some "urn:ietf:params:scim:schemas:core:2.0:User" ∧
        p.render = "urn:ietf:params:scim:schemas:core:2.0:User:name.givenName") ∧
    (∀ e, parse "urn:ietf:params:scim:schemas:core:2.0:User:name.givenName" = .error e →
      e = if 2 ≤ "name.givenName".toList.count '.' then
          .tooManySubAttributes "urn:ietf:params:scim:schemas:core:2.0:User:name.givenName"
        else if "name.givenName".toList.takeWhile (· ≠ '.') = [] then
          .emptyName "urn:ietf:params:scim:schemas:core:2.0:User:name.givenName"
        else .emptySubAttribute "urn:ietf:params:scim:schemas:core:2.0:User:name.givenName") ∧
    ∀ p : AttributePath, p.name ≠ "" → ':' ∉ p.name.toList → '.' ∉ p.name.toList →
      (∀ sub ∈ p.subAttribute, sub ≠ "" ∧ ':' ∉ sub.toList ∧ '.' ∉ sub.toList) →
      parse p.render = .ok p :=
  have hs : SchemaSplit "urn:ietf:params:scim:schemas:core:2.0:User:name.givenName"
      (some "urn:ietf:params:scim:schemas:core:2.0:User") "name.givenName".toList :=
    .of_toList (by decide) (by decide)
  ⟨hs, parse_attribute_path hs⟩

end AttributePath

end ScimFilter
