import ScimFilter.Proofs.Descent
import ScimFilter.Filter.Read
import Mathlib.Control.Monad.Basic
/-!
Reading texts by the grammar. Over the tokens of a successful scan, a reader accepts exactly
the trees the lexemes derive from the start symbol of its mode, and the grammar of
`Proofs/Derivation` derives at most one tree from any lexemes.
-/

namespace ScimFilter

open Grammar

theorem tokenize_of_scan {v : Version} {s : String} {ts : Tokens}
    (h : Lexer.scimScan v s = .ok ts) : tokenize v s = .ok ts := by
  simp [tokenize, h, Except.mapError]

theorem Reader.new_eq_ok {m : Mode} {v : Version} {r : Reader} :
    Reader.new m v = .ok r ↔ r = ⟨m, v⟩ ∧ (m = .path → v.supportsValueFilters = true) := by
  cases m <;> cases v <;> simp [Reader.new, Version.supportsValueFilters, eq_comm (a := r)]

theorem readFilter_of_scan {v : Version} {s : String} {ts : Tokens}
    (hscan : Lexer.scimScan v s = .ok ts) : readFilter s v = filter (.of v s) ts := by
  rw [readFilter, tokenize_of_scan hscan, ok_bind]

/-- Paths are read in version 2, where the reader is not refused. -/
theorem readPath_of_scan {s : String} {ts : Tokens} (hscan : Lexer.scimScan .v2 s = .ok ts) :
    readPath s .v2 = wholePath (.of .v2 s) ts := by
  rw [readPath, Reader.new, if_neg (by decide), ok_bind, tokenize_of_scan hscan, ok_bind]

theorem readFilter_eq_ok_iff {v : Version} {s : String} {ts : Tokens}
    (hscan : Lexer.scimScan v s = .ok ts) {e : Expression} :
    readFilter s v = .ok e ↔ DerivesExpression v (lexemes ts) e := by
  rw [readFilter_of_scan hscan]
  exact filter_eq_ok_iff

theorem readPath_eq_ok_iff {v : Version} {s : String} {ts : Tokens}
    (hscan : Lexer.scimScan v s = .ok ts) {p : Path} :
    readPath s v = .ok p ↔ v.supportsValueFilters = true ∧ DerivesPath v (lexemes ts) p := by
  cases v with
  | v1 =>
    -- a reader of paths in version 1 is refused before the text is scanned
    rw [readPath, Reader.new, if_pos (by decide)]
    constructor
    · intro h
      cases h
    · rintro ⟨h, -⟩
      cases h
  | v2 =>
    rw [readPath_of_scan hscan]
    exact wholePath_eq_ok_iff.trans ⟨fun d => ⟨rfl, d⟩, fun h => h.2⟩

theorem read_eq_ok_iff {m : Mode} {v : Version} {s : String} {ts : Tokens}
    (hscan : Lexer.scimScan v s = .ok ts) {root : Root} :
    Reader.read ⟨m, v⟩ s = .ok root ↔ DerivesRoot m v (lexemes ts) root := by
  cases m with
  | filter =>
    rw [Reader.read, map_eq_ok]
    cases root <;> simp [DerivesRoot, readFilter_eq_ok_iff hscan]
  | path =>
    rw [Reader.read, tokenize_of_scan hscan, ok_bind, map_eq_ok]
    cases root <;> simp [DerivesRoot, wholePath_eq_ok_iff]
    rfl

/-- Over the tokens of a successful scan, a reader made for a mode and a version accepts
exactly the trees that the lexemes derive from the mode's start symbol, and at most one tree
is derived. Reading a filter or a path directly agrees with it; paths need version 2. -/
theorem read_accepts_grammar {m : Mode} {v : Version} {reader : Reader} {s : String}
    {ts : List (Token TokenKind)} (hnew : Reader.new m v = .ok reader)
    (hscan : Lexer.scimScan v s = .ok ts) :
    (∀ root, reader.read s = .ok root ↔ DerivesRoot m v (lexemes ts) root) ∧
    (∀ root root', DerivesRoot m v (lexemes ts) root → DerivesRoot m v (lexemes ts) root' →
      root = root') ∧
    (∀ e, readFilter s v = .ok e ↔ DerivesExpression v (lexemes ts) e) ∧
    (∀ p, readPath s v = .ok p ↔ v.supportsValueFilters = true ∧ DerivesPath v (lexemes ts) p) := by
  obtain ⟨rfl, -⟩ := Reader.new_eq_ok.mp hnew
  exact ⟨fun _ => read_eq_ok_iff hscan, fun _ _ => DerivesRoot.unique,
    fun _ => readFilter_eq_ok_iff hscan, fun _ => readPath_eq_ok_iff hscan⟩

theorem filtered_path_read_by_grammar :
    Reader.new .path .v2 = .ok ⟨.path, .v2⟩ ∧
    Lexer.scimScan .v2 "a[b pr].c" = .ok [⟨.name, "a", 0, 0⟩, ⟨.openBracket, "[", 1, 1⟩,
      ⟨.name, "b", 2, 2⟩, ⟨.whitespace, " ", 3, 3⟩, ⟨.name, "pr", 4, 4⟩, ⟨.closeBracket, "]", 6, 5⟩,
      ⟨.dot, ".", 7, 6⟩, ⟨.name, "c", 8, 7⟩] ∧
    Reader.read ⟨.path, .v2⟩ "a[b pr].c" = .ok (.path ⟨⟨none, "a", none⟩,
      some (.term (.factor (.comparison ⟨⟨none, "b", none⟩, .present, none⟩))), some "c"⟩) := by
  have hnew : Reader.new .path .v2 = .ok ⟨.path, .v2⟩ := by decide
  have hscan : Lexer.scimScan .v2 "a[b pr].c" = .ok [⟨.name, "a", 0, 0⟩, ⟨.openBracket, "[", 1, 1⟩,
      ⟨.name, "b", 2, 2⟩, ⟨.whitespace, " ", 3, 3⟩, ⟨.name, "pr", 4, 4⟩, ⟨.closeBracket, "]", 6, 5⟩,
      ⟨.dot, ".", 7, 6⟩, ⟨.name, "c", 8, 7⟩] := by
    decide +kernel
  have ha : IsAttributePath [(.name, "a")] ⟨none, "a", none⟩ := ⟨by simp, by decide, by decide⟩
  have hb : IsAttributePath [(.name, "b")] ⟨none, "b", none⟩ := ⟨by simp, by decide, by decide⟩
  have d : DerivesExpression .v2 ([(.name, "b")] ++ [(.whitespace, " "), (.name, "pr")])
      (.term (.factor (.comparison ⟨⟨none, "b", none⟩, .present, none⟩))) :=
    .term (.factor (.present hb (by decide) ⟨rfl, rfl⟩))
  refine ⟨hnew, hscan, ((read_accepts_grammar hnew hscan).1 _).mpr ⟨rfl, ?_⟩⟩
  exact .subAttribute ha d rfl

/-- The `[` of a value path is looked for over names and dots only, so an attribute path with
a schema never opens a value filter, although the lexemes are a path, a `[`, an expression and
a `]`: the comparison read instead wants whitespace at the `[`. -/
theorem value_path_lookahead_stops_at_colon :
    (Lexer.scimScan .v2 "urn:x:a[b pr]").map lexemes =
      .ok ([(.name, "urn"), (.colon, ":"), (.name, "x"), (.colon, ":"), (.name, "a")] ++
        (.openBracket, "[") :: [(.name, "b"), (.whitespace, " "), (.name, "pr")] ++
        [(.closeBracket, "]")]) ∧
    IsAttributePath [(.name, "urn"), (.colon, ":"), (.name, "x"), (.colon, ":"), (.name, "a")]
      ⟨some "urn:x", "a", none⟩ ∧
    DerivesExpression .v2 ([(.name, "b")] ++ [(.whitespace, " "), (.name, "pr")])
      (.term (.factor (.comparison ⟨⟨none, "b", none⟩, .present, none⟩))) ∧
    ((readFilter "urn:x:a[b pr]" .v2).map fun _ => ()) =
      .error (.unexpected 7 (.token .whitespace) (.token "[")) := by
  have hb : IsAttributePath [(.name, "b")] ⟨none, "b", none⟩ := ⟨by simp, by decide, by decide⟩
  refine ⟨by decide +kernel, ⟨by simp, by decide, by decide⟩, ?_, by decide +kernel⟩
  exact .term (.factor (.present hb (by decide) ⟨rfl, rfl⟩))

end ScimFilter
