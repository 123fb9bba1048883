import ScimFilter.Proofs.Composition
import ScimFilter.Proofs.PlainNumbers
import Mathlib
/-!
Scanning two texts one after the other. Where the texts meet at a delimiter (a parenthesis, a
bracket, a colon, a slash or a double quote, last in the first text or first in the second), or
where exactly one of the two characters at the join is blank, no token reaches across the join.
The scan of the joined text is then the scan of the first text followed by the scan of the
second, whose offsets move by the bytes of the first and whose positions by its token count
(`scimScan_append`).

A reading goes on over a following text in two ways: across a stopper that starts that text
(`Reads.extend`), or after a closing character that ends the text read (`Reads.extend_closed`).
Offsets and positions follow from the lexemes alone (`placeTokens`).
-/

namespace ScimFilter.Lexer

open Text
open Grammar (lexemes except_map_eq_ok)

variable {v : Version}

/-! ### Places of tokens -/

/-- Tokens with the given lexemes, placed one after the other from byte `offset` and number
`position`. -/
def placeTokens : Nat → Nat → List Lexeme → List (Token TokenKind)
  | _, _, [] => []
  | offset, position, (kind, text) :: xs =>
    ⟨kind, text, offset, position⟩ :: placeTokens (offset + text.utf8ByteSize) (position + 1) xs

/-- A successful scan places its tokens one after the other. -/
theorem scanFrom_eq_placeTokens {rules : List (Rule TokenKind)} {cs : List Char} {o p : Nat}
    {ts : List (Token TokenKind)} (h : scanFrom rules cs o p = .ok ts) :
    ts = placeTokens o p (lexemes ts) := by
  fun_induction scanFrom rules cs o p generalizing ts with
  | case1 => cases h; rfl
  | case2 => cases h
  | case3 cs o p hempty k n hm text =>
    rename_i ih
    obtain ⟨ts', h', rfl⟩ := except_map_eq_ok.mp h
    simp only [Grammar.lexemes_cons, Token.lexeme, placeTokens]
    rw [← ih h']

theorem placeTokens_append (o p : Nat) (xs ys : List Lexeme) :
    placeTokens o p (xs ++ ys) = placeTokens o p xs ++
      placeTokens (o + byteLength (placeTokens o p xs)) (p + xs.length) ys := by
  induction xs generalizing o p with
  | nil => simp [placeTokens, byteLength]
  | cons x xs ih =>
    obtain ⟨kind, text⟩ := x
    simp only [List.cons_append, placeTokens, ih, byteLength_cons, List.length_cons,
      Nat.add_assoc, Nat.add_comm 1 xs.length]

/-- Tokens placed further on are the same tokens with offsets and positions moved. -/
theorem placeTokens_shift (o p δ ε : Nat) (xs : List Lexeme) :
    placeTokens (o + δ) (p + ε) xs = (placeTokens o p xs).map fun t =>
      { t with offset := t.offset + δ, position := t.position + ε } := by
  induction xs generalizing o p with
  | nil => rfl
  | cons x xs ih =>
    obtain ⟨kind, text⟩ := x
    simp only [placeTokens, List.map_cons, ← ih, Nat.add_right_comm o δ, Nat.add_right_comm p ε]

theorem byteLength_placeTokens (o p : Nat) (xs : List Lexeme) :
    byteLength (placeTokens o p xs) = (String.ofList (joinedLexemes xs)).utf8ByteSize := by
  induction xs generalizing o p with
  | nil => rfl
  | cons x xs ih =>
    obtain ⟨kind, text⟩ := x
    simp only [placeTokens, byteLength_cons, ih, joinedLexemes, List.map_cons, List.flatten_cons,
      String.ofList_append, String.utf8ByteSize_append, String.ofList_toList]

/-! ### Closing characters -/

/-- A character that ends a text closes it against the text `b` that follows: it is a stopper,
so no name or number reaches over it, and if it is blank then `b` does not start with a blank. -/
def Closing (c : Char) (b : List Char) : Prop :=
  Stopper c ∧ (isBlank c = true → ∀ d ∈ b.head?, isBlank d = false)

/-- A rule takes the same from a text that ends in a closing character whatever follows it,
provided a string at the start of the text is closed within it. -/
theorem take_append_of_closing {r : Rule TokenKind} (hr : r ∈ scimRules v) {cs : List Char}
    {c : Char} (b : List Char) (hlast : cs.getLast? = some c) (hc : Closing c b)
    (hquote : cs.head? = some '"' → (stringLength cs).isSome) :
    r.take (cs ++ b) = r.take cs ∧ ∀ m, r.take cs = some m → m ≤ cs.length := by
  obtain ⟨pre, rfl⟩ := List.getLast?_eq_some_iff.mp hlast
  have hsplit : pre ++ [c] ++ b = pre ++ c :: b := by simp
  rcases mem_scimRules hr with rfl | rfl | rfl | rfl | rfl | rfl | rfl | rfl | rfl | rfl | rfl
  case inl =>
    -- a run of blanks stops inside the text unless the whole text is blank
    have hrun : runLength isBlank (pre ++ [c] ++ b) = runLength isBlank (pre ++ [c]) := by
      by_cases hall : ∀ x ∈ pre ++ [c], isBlank x = true
      · have hcb : isBlank c = true := hall c (by simp)
        have hwhole := runLength_append_of_all hall [] (by simp)
        rw [List.append_nil] at hwhole
        rw [runLength_append_of_all hall b (hc.2 hcb), hwhole]
      · obtain ⟨x, hx, hxb⟩ : ∃ x ∈ pre ++ [c], isBlank x = false := by simpa using hall
        exact runLength_append_of_lt b (runLength_lt_iff.mpr ⟨x, hx, hxb⟩)
    refine ⟨by simp only [whitespaceRule, hrun], ?_⟩
    rintro m ⟨⟩
    exact runLength_le _ _
  case inr.inl =>
    have hpre := jsonNumberLength_le pre
    have hn : jsonNumberLength (pre ++ [c] ++ b) = jsonNumberLength (pre ++ [c]) := by
      rw [hsplit, jsonNumberLength_append _ _ hc.1, jsonNumberLength_append _ _ hc.1]
    have hz : leadingZeroRefused (pre ++ [c] ++ b) (jsonNumberLength pre) =
        leadingZeroRefused (pre ++ [c]) (jsonNumberLength pre) := by
      rw [hsplit, leadingZeroRefused_append _ hc.1 hpre, leadingZeroRefused_append _ hc.1 hpre]
    have hn' : jsonNumberLength (pre ++ [c]) = jsonNumberLength pre :=
      jsonNumberLength_append _ _ hc.1
    refine ⟨by simp only [numberRule, hn, hn', hz], fun m hm => ?_⟩
    simp only [numberRule] at hm
    split at hm
    · cases hm
    · cases hm
      exact jsonNumberLength_le _
  case inr.inr.inl =>
    refine ⟨?_, fun m hm => stringLength_le hm⟩
    by_cases hq : (pre ++ [c]).head? = some '"'
    · obtain ⟨n, hn⟩ := Option.isSome_iff_exists.mp (hquote hq)
      exact (stringLength_append _ hn).trans hn.symm
    · obtain ⟨x, rest, hxs⟩ := List.exists_cons_of_ne_nil (show pre ++ [c] ≠ [] by simp)
      have hx : x ≠ '"' := fun h => hq (by simp [hxs, h])
      simp only [stringRule, hxs, List.cons_append, stringLength_cons _ hx]
  case inr.inr.inr.inr.inr.inr.inr.inr.inl =>
    have hrun : runLength isNameChar (pre ++ [c] ++ b) = runLength isNameChar (pre ++ [c]) := by
      rw [hsplit, runLength_append_of_stop _ _ hc.1.1, runLength_append_of_stop _ _ hc.1.1]
    refine ⟨by simp only [nameRule, hrun], ?_⟩
    rintro m ⟨⟩
    exact runLength_le _ _
  all_goals
    obtain ⟨x, rest, hxs⟩ := List.exists_cons_of_ne_nil (show pre ++ [c] ≠ [] by simp)
    refine ⟨by simp [single, hxs], fun m hm => ?_⟩
    simp only [single] at hm
    split at hm
    · cases hm
      rw [hxs]
      simp
    · cases hm

theorem firstMatch_append_of_closing (v : Version) {cs : List Char} {c : Char} (b : List Char)
    (hlast : cs.getLast? = some c) (hc : Closing c b)
    (hquote : cs.head? = some '"' → (stringLength cs).isSome) :
    firstMatch (scimRules v) (cs ++ b) = firstMatch (scimRules v) cs :=
  firstMatch_congr fun _ hr =>
    Rule.takes_append_iff (take_append_of_closing hr b hlast hc hquote).1
      (take_append_of_closing hr b hlast hc hquote).2

/-- A text read alone is read the same with any text behind it that its last character
closes it against. -/
theorem Reads.extend_closed {cs : List Char} {xs : List Lexeme} (h : Reads (scimRules v) cs xs [])
    {b : List Char} (hclose : ∀ c ∈ cs.getLast?, Closing c b) :
    Reads (scimRules v) (cs ++ b) xs b := by
  generalize hr : ([] : List Char) = r at h
  induction h with
  | done r =>
    subst hr
    exact .done b
  | @step cs r xs k n hm hrd ih =>
    subst hr
    have hb := firstMatch_bounds _ _ hm
    obtain ⟨c, hc⟩ := Option.isSome_iff_exists.mp
      (List.getLast?_isSome.mpr (show cs ≠ [] by rintro rfl; simp at hb; omega))
    have hquote : cs.head? = some '"' → (stringLength cs).isSome := by
      intro hq
      obtain ⟨t, rfl⟩ : ∃ t, cs = '"' :: t := by
        cases cs with
        | nil => cases hq
        | cons x t =>
          simp only [List.head?_cons, Option.some.injEq] at hq
          exact ⟨t, by rw [hq]⟩
      rw [(firstMatch_quote v t hm).2]
      rfl
    have hm' : firstMatch (scimRules v) (cs ++ b) = some (k, n) := by
      rw [firstMatch_append_of_closing v b hc (hclose c hc) hquote]
      exact hm
    -- the text left after a token ends in the same character
    have hclose' : ∀ c ∈ (cs.drop n).getLast?, Closing c b := by
      intro c' hc'
      rw [List.getLast?_drop] at hc'
      split at hc'
      · cases hc'
      · exact hclose c' hc'
    have e1 : (cs ++ b).drop n = cs.drop n ++ b := List.drop_append_of_le_length hb.2
    have e2 : (cs ++ b).take n = cs.take n := List.take_append_of_le_length hb.2
    have := Reads.step hm' (e1 ▸ ih hclose' rfl)
    rwa [e2] at this

/-! ### Where two texts meet -/

/-- The characters that end every token before them and start a token of their own or a
string: the parentheses, the brackets, the colon, the slash and the double quote. -/
def delimiters : List Char := ['(', ')', '[', ']', ':', '/', '"']

theorem Stopper.of_delimiter {d : Char} (h : d ∈ delimiters) : Stopper d ∧ isBlank d = false := by
  simp only [delimiters, List.mem_cons, List.not_mem_nil, or_false] at h
  rcases h with rfl | rfl | rfl | rfl | rfl | rfl | rfl <;> decide

/-- Two texts meet at a token boundary: the last character of the first or the first character
of the second is a delimiter, or exactly one of these two characters is blank. -/
def MeetAtBoundary (a b : List Char) : Prop :=
  (∃ c ∈ a.getLast?, c ∈ delimiters) ∨ (∃ d ∈ b.head?, d ∈ delimiters) ∨
    ∃ c ∈ a.getLast?, ∃ d ∈ b.head?, isBlank c ≠ isBlank d

/-- A whitespace token is a run of blanks. -/
theorem firstMatch_whitespace {cs : List Char} {n : Nat}
    (h : firstMatch (scimRules v) cs = some (.whitespace, n)) : ∀ x ∈ cs.take n, isBlank x = true := by
  obtain ⟨pre, r, post, hrules, -, hk, ht, -⟩ :=
    (firstMatch_eq_some_iff (scimRules v) cs .whitespace n).mp h
  have hr : r ∈ scimRules v := by simp [hrules]
  rcases mem_scimRules hr with rfl | rfl | rfl | rfl | rfl | rfl | rfl | rfl | rfl | rfl | rfl
  case inl =>
    simp only [whitespaceRule, Option.some.injEq] at ht
    subst ht
    rw [runLength, ← List.prefix_iff_eq_take.mp (List.takeWhile_prefix isBlank)]
    exact fun x hx => List.mem_takeWhile_imp hx
  all_goals simp [numberRule, stringRule, nameRule, single] at hk

/-- A text read alone that ends in a character that is not blank does not end in whitespace. -/
theorem Reads.last_not_whitespace {cs : List Char} {xs : List Lexeme}
    (h : Reads (scimRules v) cs xs []) {c : Char} (hc : cs.getLast? = some c)
    (hcb : isBlank c = false) : ∀ x ∈ xs.getLast?, x.1 ≠ .whitespace := by
  generalize hr : ([] : List Char) = r at h
  induction h with
  | done => simp
  | @step cs r xs k n hm hrd ih =>
    subst hr
    have hb := firstMatch_bounds _ _ hm
    cases xs with
    | nil =>
      -- the last token takes the rest of the text, so it ends in `c`
      have hdrop : cs.drop n = [] := hrd.text_eq
      have htake : cs.take n = cs := by
        rw [← List.take_append_drop n cs, hdrop, List.append_nil, List.take_take, Nat.min_self]
      simp only [List.getLast?_singleton, Option.mem_def, Option.some.injEq]
      rintro x rfl hk
      have hk' : k = .whitespace := hk
      subst hk'
      have hblank := firstMatch_whitespace hm
      rw [htake] at hblank
      rw [hblank c (List.mem_of_getLast? hc)] at hcb
      cases hcb
    | cons y ys =>
      have hne : cs.drop n ≠ [] := by
        have := hrd.joined_ne_nil (List.cons_ne_nil y ys)
        rw [hrd.text_eq, List.append_nil]
        exact this
      have hc' : (cs.drop n).getLast? = some c := by
        rw [List.getLast?_drop, if_neg]
        · exact hc
        · intro hle
          exact hne (List.drop_eq_nil_of_le hle)
      simpa [List.getLast?_cons_cons] using ih hc' rfl

/-- A text read alone is read the same in front of a text it meets at a token boundary. -/
theorem Reads.extend_of_meet {cs : List Char} {xs : List Lexeme} (h : Reads (scimRules v) cs xs [])
    {b : List Char} (hmeet : MeetAtBoundary cs b) : Reads (scimRules v) (cs ++ b) xs b := by
  rcases hmeet with ⟨c, hc, hdelim⟩ | ⟨d, hd, hdelim⟩ | ⟨c, hc, d, hd, hblank⟩
  · -- a delimiter ends the first text
    refine h.extend_closed fun c' hc' => ?_
    cases Option.mem_unique hc hc'
    exact ⟨(Stopper.of_delimiter hdelim).1, fun hb => by
      rw [(Stopper.of_delimiter hdelim).2] at hb; cases hb⟩
  · -- a delimiter starts the second text
    refine h.extend fun d' hd' => ?_
    cases Option.mem_unique hd hd'
    exact ⟨(Stopper.of_delimiter hdelim).1, fun hb => by
      rw [(Stopper.of_delimiter hdelim).2] at hb; cases hb⟩
  · cases hcb : isBlank c
    · -- a blank starts the second text after a character that is not blank
      have hdb : isBlank d = true := by simpa [hcb] using hblank.symm
      refine h.extend fun d' hd' => ?_
      cases Option.mem_unique hd hd'
      exact ⟨Stopper.of_isBlank hdb, fun _ => h.last_not_whitespace hc hcb⟩
    · -- a blank ends the first text before a character that is not blank
      have hdb : isBlank d = false := by simpa [hcb] using hblank.symm
      refine h.extend_closed fun c' hc' => ?_
      cases Option.mem_unique hc hc'
      exact ⟨Stopper.of_isBlank hcb, fun _ d' hd' => by
        cases Option.mem_unique hd hd'
        exact hdb⟩

/-- Two texts that meet at a token boundary scan as the tokens of the first followed by those of
the second, whose offsets move by the bytes of the first text and whose positions by its number
of tokens. -/
theorem scimScan_append {a b : String} {ta tb : List (Token TokenKind)}
    (ha : scimScan v a = .ok ta) (hb : scimScan v b = .ok tb)
    (hmeet : MeetAtBoundary a.toList b.toList) :
    scimScan v (a ++ b) = .ok (ta ++ tb.map fun t =>
      { t with offset := t.offset + a.utf8ByteSize, position := t.position + ta.length }) := by
  have hra := reads_of_scanFrom ha
  have hjoin := (hra.extend_of_meet hmeet).append (reads_of_scanFrom hb)
  obtain ⟨ts, hts, hlex⟩ := scanFrom_of_reads hjoin rfl 0 0
  have hbytes : byteLength (placeTokens 0 0 (lexemes ta)) = a.utf8ByteSize := by
    rw [byteLength_placeTokens, ← List.append_nil (joinedLexemes _), ← hra.text_eq,
      String.ofList_toList]
  have hlen : (lexemes ta).length = ta.length := List.length_map ..
  have hta := scanFrom_eq_placeTokens ha
  have hts' := scanFrom_eq_placeTokens hts
  show scanFrom (scimRules v) (a ++ b).toList 0 0 = _
  rw [String.toList_append, hts, hts', hlex, placeTokens_append, hbytes, ← hta, hlen,
    placeTokens_shift, ← scanFrom_eq_placeTokens hb]

/-- After a closing parenthesis a name starts a token of its own. -/
theorem scan_after_close_paren :
    scimScan .v2 "(x)" = .ok [⟨.openParen, "(", 0, 0⟩, ⟨.name, "x", 1, 1⟩,
      ⟨.closeParen, ")", 2, 2⟩] ∧
    scimScan .v2 "y" = .ok [⟨.name, "y", 0, 0⟩] ∧
    MeetAtBoundary "(x)".toList "y".toList ∧
    scimScan .v2 ("(x)" ++ "y") = .ok ([⟨.openParen, "(", 0, 0⟩, ⟨.name, "x", 1, 1⟩,
      ⟨.closeParen, ")", 2, 2⟩] ++ [(⟨.name, "y", 0, 0⟩ : Token TokenKind)].map fun t =>
        { t with offset := t.offset + "(x)".utf8ByteSize, position := t.position + 3 }) := by
  have ha : scimScan .v2 "(x)" = .ok [⟨.openParen, "(", 0, 0⟩, ⟨.name, "x", 1, 1⟩,
      ⟨.closeParen, ")", 2, 2⟩] := by
    decide +kernel
  have hb : scimScan .v2 "y" = .ok [⟨.name, "y", 0, 0⟩] := by decide +kernel
  have hmeet : MeetAtBoundary "(x)".toList "y".toList := .inl ⟨')', rfl, by decide⟩
  exact ⟨ha, hb, hmeet, scimScan_append ha hb hmeet⟩

end ScimFilter.Lexer
