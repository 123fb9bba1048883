import ScimFilter.Lexer.Scan
/-!
What a first-match scan returns. On success the texts of the tokens concatenate to the input,
each text is non-empty, tokens are numbered from zero, each offset is the byte length of the
texts before it, and each token is what the first rule that takes a non-empty piece takes at
the remaining text. On failure the same holds for the tokens read so far, and no rule takes
anything of the non-empty rest, which the error's offset and preview describe.
-/

namespace ScimFilter.Lexer

variable {κ : Type}

/-- A rule takes `n` characters of a text: a non-empty piece, no longer than the text. -/
def Rule.Takes (r : Rule κ) (cs : List Char) (n : Nat) : Prop :=
  r.take cs = some n ∧ 0 < n ∧ n ≤ cs.length

def joinedText (ts : List (Token κ)) : List Char :=
  (ts.map fun t => t.text.toList).flatten

def byteLength : List (Token κ) → Nat
  | [] => 0
  | t :: ts => t.text.utf8ByteSize + byteLength ts

/-- Token `i` of `ts` is what the rules make of the text at its place: `rest` is the text after
the last token, `offset` and `position` the byte offset and number of the first token. The text
is non-empty, the token is numbered and placed after those before it, and its kind and length
come from the first rule that takes a non-empty piece of the remaining text; no earlier rule
takes anything there. -/
def Scanned (rules : List (Rule κ)) (offset position : Nat) (ts : List (Token κ))
    (rest : List Char) (i : Nat) (h : i < ts.length) : Prop :=
  let t := ts[i]
  let remaining := joinedText (ts.drop i) ++ rest
  t.text ≠ "" ∧ t.position = position + i ∧ t.offset = offset + byteLength (ts.take i) ∧
    ∃ pre r post, rules = pre ++ r :: post ∧ (∀ r' ∈ pre, ∀ m, ¬ r'.Takes remaining m) ∧
      r.kind = t.kind ∧ r.Takes remaining t.text.length

theorem firstMatch_eq_some_iff (rules : List (Rule κ)) (cs : List Char) (k : κ) (n : Nat) :
    firstMatch rules cs = some (k, n) ↔
      ∃ pre r post, rules = pre ++ r :: post ∧ (∀ r' ∈ pre, ∀ m, ¬ r'.Takes cs m) ∧
        r.kind = k ∧ r.Takes cs n := by
  induction rules with
  | nil => simp [firstMatch]
  | cons r rs ih =>
    constructor
    · intro h
      simp only [firstMatch] at h
      split at h
      · rename_i m hm
        split at h
        · rename_i hb
          simp only [Option.some.injEq, Prod.mk.injEq] at h
          obtain ⟨rfl, rfl⟩ := h
          exact ⟨[], r, rs, rfl, by simp, rfl, hm, hb.1, hb.2⟩
        · rename_i hb
          obtain ⟨pre, r', post, rfl, hpre, hk, ht⟩ := ih.mp h
          refine ⟨r :: pre, r', post, rfl, ?_, hk, ht⟩
          intro r'' hr'' m hm'
          rcases List.mem_cons.mp hr'' with rfl | hr''
          · rw [hm'.1] at hm
            cases hm
            exact hb hm'.2
          · exact hpre r'' hr'' m hm'
      · rename_i hm
        obtain ⟨pre, r', post, rfl, hpre, hk, ht⟩ := ih.mp h
        refine ⟨r :: pre, r', post, rfl, ?_, hk, ht⟩
        intro r'' hr'' m hm'
        rcases List.mem_cons.mp hr'' with rfl | hr''
        · rw [hm'.1] at hm
          cases hm
        · exact hpre r'' hr'' m hm'
    · rintro ⟨pre, r', post, hrules, hpre, hk, ht⟩
      cases pre with
      | nil =>
        simp only [List.nil_append, List.cons.injEq] at hrules
        obtain ⟨rfl, rfl⟩ := hrules
        simp [firstMatch, ht.1, ht.2, hk]
      | cons r0 pre =>
        simp only [List.cons_append, List.cons.injEq] at hrules
        obtain ⟨rfl, rfl⟩ := hrules
        have hr0 : ∀ m, ¬ r.Takes cs m := hpre r (by simp)
        have rest : firstMatch (pre ++ r' :: post) cs = some (k, n) :=
          ih.mpr ⟨pre, r', post, rfl, fun x hx => hpre x (by simp [hx]), hk, ht⟩
        simp only [firstMatch]
        split
        · rename_i m hm
          split
          · rename_i hb
            exact absurd ⟨hm, hb⟩ (hr0 m)
          · exact rest
        · exact rest

theorem firstMatch_eq_none_iff (rules : List (Rule κ)) (cs : List Char) :
    firstMatch rules cs = none ↔ ∀ r ∈ rules, ∀ m, ¬ r.Takes cs m := by
  induction rules with
  | nil => simp [firstMatch]
  | cons r rs ih =>
    simp only [firstMatch, List.mem_cons, forall_eq_or_imp]
    split
    · rename_i m hm
      split
      · rename_i hb
        constructor
        · intro h
          cases h
        · rintro ⟨h1, -⟩
          exact absurd ⟨hm, hb⟩ (h1 m)
      · rename_i hb
        rw [ih]
        constructor
        · intro h
          refine ⟨fun m' hm' => ?_, h⟩
          rw [hm'.1] at hm
          cases hm
          exact hb hm'.2
        · exact fun h => h.2
    · rename_i hm
      rw [ih]
      constructor
      · intro h
        refine ⟨fun m' hm' => ?_, h⟩
        rw [hm'.1] at hm
        cases hm
      · exact fun h => h.2

theorem joinedText_cons (t : Token κ) (ts : List (Token κ)) :
    joinedText (t :: ts) = t.text.toList ++ joinedText ts := by
  simp [joinedText]

theorem byteLength_cons (t : Token κ) (ts : List (Token κ)) :
    byteLength (t :: ts) = t.text.utf8ByteSize + byteLength ts := by
  simp [byteLength]

/-- Token `i + 1` of a list with a first token `t` is token `i` of the rest, scanned from the
byte after `t` with numbers from one more. -/
theorem scanned_cons_succ (rules : List (Rule κ)) (offset position : Nat) (t : Token κ)
    (ts : List (Token κ)) (rest : List Char) (i : Nat) (h : i < ts.length) :
    Scanned rules offset position (t :: ts) rest (i + 1) (Nat.succ_lt_succ h) ↔
      Scanned rules (offset + t.text.utf8ByteSize) (position + 1) ts rest i h := by
  simp only [Scanned, List.getElem_cons_succ, List.drop_succ_cons, List.take_succ_cons,
    byteLength_cons]
  constructor
  · rintro ⟨h1, h2, h3, h4⟩
    exact ⟨h1, by omega, by omega, h4⟩
  · rintro ⟨h1, h2, h3, h4⟩
    exact ⟨h1, by omega, by omega, h4⟩

/-- What a scan from a text returns, for every byte offset and first number. -/
def ScanResult (rules : List (Rule κ)) (cs : List Char) (offset position : Nat) :
    Except UnknownToken (List (Token κ)) → Prop
  | .ok ts => joinedText ts = cs ∧ ∀ i (h : i < ts.length), Scanned rules offset position ts [] i h
  | .error e => ∃ ts rest, joinedText ts ++ rest = cs ∧ rest ≠ [] ∧
      (∀ i (h : i < ts.length), Scanned rules offset position ts rest i h) ∧
      (∀ r ∈ rules, ∀ m, ¬ r.Takes rest m) ∧
      e.offset = offset + byteLength ts ∧ e.preview = String.ofList (rest.take previewLength)

/-- Adding a first token to what a scan of the remaining text returns. -/
theorem scanResult_cons (rules : List (Rule κ)) (cs : List Char) (offset position : Nat)
    (kind : κ) (n : Nat) (hm : firstMatch rules cs = some (kind, n))
    (r : Except UnknownToken (List (Token κ)))
    (hr : ScanResult rules (cs.drop n)
      (offset + (String.ofList (cs.take n)).utf8ByteSize) (position + 1) r) :
    ScanResult rules cs offset position
      (r.map (⟨kind, String.ofList (cs.take n), offset, position⟩ :: ·)) := by
  have hb := firstMatch_bounds rules cs hm
  obtain ⟨pre, rule, post, hrules, hpre, hk, ht⟩ := (firstMatch_eq_some_iff rules cs kind n).mp hm
  have hlen : (String.ofList (cs.take n)).length = n := by
    simp [String.length_ofList]; omega
  have hne : String.ofList (cs.take n) ≠ "" := by
    intro h
    have := congrArg String.length h
    rw [hlen] at this
    simp at this
    omega
  cases r with
  | ok ts =>
    obtain ⟨hjoin, hts⟩ := hr
    have hall : joinedText ((⟨kind, String.ofList (cs.take n), offset, position⟩ : Token κ) :: ts) =
        cs := by
      rw [joinedText_cons, hjoin]
      simp
    refine ⟨hall, ?_⟩
    intro i hi
    cases i with
    | zero =>
      refine ⟨hne, by simp, by simp [byteLength], pre, rule, post, hrules, ?_, hk, ?_⟩
      · simpa [hall] using hpre
      · simpa [hall, hlen] using ht
    | succ i =>
      exact (scanned_cons_succ rules offset position _ ts [] i (by simpa using hi)).mpr
        (hts i (by simpa using hi))
  | error e =>
    obtain ⟨ts, rest, hjoin, hrest, hts, hnone, hoff, hprev⟩ := hr
    refine ⟨⟨kind, String.ofList (cs.take n), offset, position⟩ :: ts, rest, ?_, hrest, ?_, hnone,
      ?_, hprev⟩
    · rw [joinedText_cons, List.append_assoc, hjoin]
      simp
    · have hall : joinedText
          ((⟨kind, String.ofList (cs.take n), offset, position⟩ : Token κ) :: ts) ++ rest = cs := by
        rw [joinedText_cons, List.append_assoc, hjoin]
        simp
      intro i hi
      cases i with
      | zero =>
        refine ⟨hne, by simp, by simp [byteLength], pre, rule, post, hrules, ?_, hk, ?_⟩
        · simpa [hall] using hpre
        · simpa [hall, hlen] using ht
      | succ i =>
        exact (scanned_cons_succ rules offset position _ ts rest i (by simpa using hi)).mpr
          (hts i (by simpa using hi))
    · rw [hoff, byteLength_cons]
      dsimp only
      omega

theorem scanFrom_result (rules : List (Rule κ)) (cs : List Char) (offset position : Nat) :
    ScanResult rules cs offset position (scanFrom rules cs offset position) := by
  rw [scanFrom]
  split
  · rename_i hempty
    have : cs = [] := List.isEmpty_iff.mp hempty
    subst this
    exact ⟨rfl, fun i h => absurd h (by simp)⟩
  · rename_i hne
    split
    · rename_i hm
      refine ⟨[], cs, by simp [joinedText], fun h => hne (by simp [h]), fun i h => absurd h (by simp),
        (firstMatch_eq_none_iff rules cs).mp hm, by simp [byteLength], rfl⟩
    · rename_i kind n hm
      exact scanResult_cons rules cs offset position kind n hm _
        (scanFrom_result rules (cs.drop n) _ _)
termination_by cs.length
decreasing_by exact length_drop_lt_of_firstMatch ‹_›

/-- A scan's result, characterised. Success: the token texts concatenate to the input, and every
token is `Scanned`: non-empty, numbered by its index, placed at the byte length of the texts
before it, and taken by the first rule that takes a non-empty piece of the remaining input.
Failure: the tokens before the failure are `Scanned` in the same way, no rule takes anything of
the non-empty rest, and the error gives the rest's byte offset and its first sixteen
characters. -/
theorem scan_result (rules : List (Rule κ)) (input : String) :
    match scan rules input with
    | .ok ts => joinedText ts = input.toList ∧ ∀ i (h : i < ts.length), Scanned rules 0 0 ts [] i h
    | .error e => ∃ ts rest, joinedText ts ++ rest = input.toList ∧ rest ≠ [] ∧
        (∀ i (h : i < ts.length), Scanned rules 0 0 ts rest i h) ∧
        (∀ r ∈ rules, ∀ m, ¬ r.Takes rest m) ∧
        e.offset = byteLength ts ∧ e.preview = String.ofList (rest.take previewLength) := by
  have := scanFrom_result rules input.toList 0 0
  unfold scan
  revert this
  cases scanFrom rules input.toList 0 0 with
  | ok ts => exact id
  | error e =>
    rintro ⟨ts, rest, h1, h2, h3, h4, h5, h6⟩
    exact ⟨ts, rest, h1, h2, h3, h4, by simpa using h5, h6⟩

end ScimFilter.Lexer
