import ScimFilter.Proofs.PlainNumbers
import Mathlib
/-!
The number rule. A JSON number (RFC 8259 §6) is an optional minus, an integer part (`0`, or
digits that start with `1` to `9`), an optional fraction and an optional exponent. The number
rule takes the longest JSON number at the start of the text (`jsonNumber_take`,
`JsonNumber.length_le`) unless that number is `0` or `-0` and a digit follows it. That is
exactly what the rule written with a look-ahead, `0(?![0-9])` in place of `0`, would take
(`numberRule_takes_iff_lookahead`).
-/

namespace ScimFilter.Lexer

open Text

/-! ### Runs of digits -/

theorem runLength_append_eq_add {p : Char → Bool} {cs : List Char} (h : ∀ c ∈ cs, p c = true)
    (t : List Char) : runLength p (cs ++ t) = cs.length + runLength p t := by
  simp [runLength, List.takeWhile_append_of_pos h]

theorem take_runLength (p : Char → Bool) (cs : List Char) :
    cs.take (runLength p cs) = cs.takeWhile p :=
  (List.prefix_iff_eq_take.mp (List.takeWhile_prefix p)).symm

theorem head_of_runLength_pos {p : Char → Bool} {cs : List Char} (h : 0 < runLength p cs) :
    ∃ d ∈ cs.head?, p d = true := by
  cases cs with
  | nil => simp [runLength] at h
  | cons c t =>
    refine ⟨c, rfl, ?_⟩
    cases hc : p c
    · simp [runLength, hc] at h
    · rfl

/-! ### The parts of a number -/

/-- The exponent of a number: nothing, or `e` or `E`, an optional sign and digits. -/
def ExponentPart (cs : List Char) : Prop :=
  cs = [] ∨ ∃ e s ds, cs = e :: (s ++ ds) ∧ (e = 'e' ∨ e = 'E') ∧
    (s = [] ∨ s = ['+'] ∨ s = ['-']) ∧ ds ≠ [] ∧ ∀ d ∈ ds, d.isDigit = true

/-- A number as RFC 8259 §6 writes it: an optional minus, an integer part, a fraction and an
exponent. -/
def JsonNumber (cs : List Char) : Prop :=
  ∃ s i f e, cs = s ++ i ++ f ++ e ∧ (s = [] ∨ s = ['-']) ∧ IntegerPart i ∧ FractionPart f ∧
    ExponentPart e

theorem IntegerPart.head {i : List Char} (hi : IntegerPart i) :
    ∃ c t, i = c :: t ∧ c.isDigit = true := by
  rcases hi with rfl | ⟨c, rest, rfl, -, hdigits⟩
  · exact ⟨'0', [], rfl, rfl⟩
  · exact ⟨c, rest, rfl, hdigits c List.mem_cons_self⟩

theorem FractionPart.head_eq {f : List Char} (hf : FractionPart f) : ∀ d ∈ f.head?, d = '.' := by
  rcases hf with rfl | ⟨ds, rfl, -, -⟩ <;> simp

theorem ExponentPart.head_eq {e : List Char} (he : ExponentPart e) :
    ∀ d ∈ e.head?, d = 'e' ∨ d = 'E' := by
  rcases he with rfl | ⟨x, s, ds, rfl, hx, -⟩ <;> simp_all

/-- A fraction at the start of a text that does not start with a point is empty. -/
theorem FractionPart.eq_nil {f t : List Char} (hf : FractionPart f) {d : Char}
    (hd : d ∈ (f ++ t).head?) (hne : d ≠ '.') : f = [] := by
  cases f with
  | nil => rfl
  | cons x f =>
    simp only [List.cons_append, List.head?_cons, Option.mem_def, Option.some.injEq] at hd
    subst hd
    exact absurd (hf.head_eq x rfl) hne

/-- An exponent at the start of a text that does not start with `e` or `E` is empty. -/
theorem ExponentPart.eq_nil {e t : List Char} (he : ExponentPart e) {d : Char}
    (hd : d ∈ (e ++ t).head?) (hne : d ≠ 'e' ∧ d ≠ 'E') : e = [] := by
  cases e with
  | nil => rfl
  | cons x e =>
    simp only [List.cons_append, List.head?_cons, Option.mem_def, Option.some.injEq] at hd
    subst hd
    rcases he.head_eq x rfl with h | h
    exacts [absurd h hne.1, absurd h hne.2]

/-- After the integer part, neither a fraction nor an exponent starts with a digit. -/
theorem digit_not_head {f e t : List Char} (hf : FractionPart f) (he : ExponentPart e)
    (hd : ∃ d ∈ (f ++ e ++ t).head?, d.isDigit = true) : f = [] ∧ e = [] := by
  obtain ⟨d, hd, hdig⟩ := hd
  have hf0 : f = [] := hf.eq_nil (t := e ++ t) (by simpa using hd) (by rintro rfl; cases hdig)
  subst hf0
  have hne : d ≠ 'e' ∧ d ≠ 'E' := ⟨(by rintro rfl; cases hdig), (by rintro rfl; cases hdig)⟩
  exact ⟨rfl, he.eq_nil hd hne⟩

/-! ### What the length functions take -/

theorem integerPart_take {cs : List Char} (h : 0 < integerLength cs) :
    IntegerPart (cs.take (integerLength cs)) := by
  cases cs with
  | nil => simp [integerLength] at h
  | cons c rest =>
    by_cases h0 : c = '0'
    · subst h0
      exact .inl rfl
    · have hc : c.isDigit = true := by
        by_contra hc
        simp [integerLength, hc] at h
      have hlen : integerLength (c :: rest) = runLength Char.isDigit rest + 1 := by
        simp [integerLength, hc]
      rw [hlen, List.take_succ_cons, take_runLength]
      refine .inr ⟨c, _, rfl, h0, fun d hd => ?_⟩
      rcases List.mem_cons.mp hd with rfl | hd
      · exact hc
      · exact List.mem_takeWhile_imp hd

theorem fractionPart_take (cs : List Char) : FractionPart (cs.take (fractionLength cs)) := by
  cases cs with
  | nil => exact .inl rfl
  | cons c rest =>
    by_cases hc : c = '.'
    · subst hc
      by_cases hd : 0 < runLength Char.isDigit rest
      · have hlen : fractionLength ('.' :: rest) = runLength Char.isDigit rest + 1 := by
          simp [fractionLength, hd]
        rw [hlen, List.take_succ_cons, take_runLength]
        exact .inr ⟨_, rfl, List.ne_nil_of_length_pos hd, fun d hd => List.mem_takeWhile_imp hd⟩
      · have hlen : fractionLength ('.' :: rest) = 0 := by simp [fractionLength, hd]
        rw [hlen, List.take_zero]
        exact .inl rfl
    · have hlen : fractionLength (c :: rest) = 0 := by simp [fractionLength, hc]
      rw [hlen, List.take_zero]
      exact .inl rfl

/-- The digits of an exponent after its optional sign. -/
theorem exponentDigitsLength_signed {s ds : List Char} (hs : s = [] ∨ s = ['+'] ∨ s = ['-'])
    (hne : ds ≠ []) (hds : ∀ d ∈ ds, d.isDigit = true) (t : List Char) :
    exponentDigitsLength (s ++ ds ++ t) = s.length + ds.length + runLength Char.isDigit t := by
  have hrun := runLength_append_eq_add hds t
  have hpos : 0 < ds.length := List.length_pos_iff.mpr hne
  rcases hs with rfl | rfl | rfl
  · obtain ⟨d, rest, rfl⟩ := List.exists_cons_of_ne_nil hne
    have hd := hds d List.mem_cons_self
    have hplus : d ≠ '+' := by rintro rfl; cases hd
    have hminus : d ≠ '-' := by rintro rfl; cases hd
    simp only [List.cons_append] at hrun
    simp [exponentDigitsLength, hplus, hminus, hrun]
  · simp [exponentDigitsLength, hrun, hpos]
    omega
  · simp [exponentDigitsLength, hrun, hpos]
    omega

/-- An exponent's digits follow its sign, if it has one. -/
theorem exponentDigitsLength_split (rest : List Char) :
    ∃ s body, (s = [] ∨ s = ['+'] ∨ s = ['-']) ∧ rest = s ++ body ∧
      exponentDigitsLength rest =
        if 0 < runLength Char.isDigit body then s.length + runLength Char.isDigit body else 0 := by
  cases rest with
  | nil => exact ⟨[], [], .inl rfl, rfl, rfl⟩
  | cons d body =>
    by_cases hplus : d = '+'
    · subst hplus
      exact ⟨['+'], body, .inr (.inl rfl), rfl, rfl⟩
    · by_cases hminus : d = '-'
      · subst hminus
        exact ⟨['-'], body, .inr (.inr rfl), rfl, rfl⟩
      · refine ⟨[], d :: body, .inl rfl, rfl, ?_⟩
        simp [exponentDigitsLength, hplus, hminus]

theorem exponentPart_take (cs : List Char) : ExponentPart (cs.take (exponentLength cs)) := by
  cases cs with
  | nil => exact .inl rfl
  | cons c rest =>
    by_cases he : c = 'e' ∨ c = 'E'
    · obtain ⟨s, body, hs, rfl, hlen⟩ := exponentDigitsLength_split rest
      by_cases hd : 0 < runLength Char.isDigit body
      · have hexp : exponentLength (c :: (s ++ body)) = s.length + runLength Char.isDigit body + 1 := by
          rcases he with rfl | rfl <;> simp [exponentLength, hlen, hd]
        rw [hexp, List.take_succ_cons, List.take_length_add_append, take_runLength]
        exact .inr ⟨c, s, _, rfl, he, hs, List.ne_nil_of_length_pos hd,
          fun d hd => List.mem_takeWhile_imp hd⟩
      · have hexp : exponentLength (c :: (s ++ body)) = 0 := by
          rcases he with rfl | rfl <;> simp [exponentLength, hlen, hd]
        rw [hexp, List.take_zero]
        exact .inl rfl
    · have hlen : exponentLength (c :: rest) = 0 := by
        simp only [not_or] at he
        simp [exponentLength, he.1, he.2]
      rw [hlen, List.take_zero]
      exact .inl rfl

/-! ### No longer part at the same place -/

/-- An integer part at the start of a text is at most what `integerLength` takes there, and
shorter only where a digit follows it. -/
theorem IntegerPart.length_le {i : List Char} (hi : IntegerPart i) (t : List Char) :
    i.length ≤ integerLength (i ++ t) ∧
      (i.length < integerLength (i ++ t) → ∃ d ∈ t.head?, d.isDigit = true) := by
  rcases hi with rfl | ⟨c, rest, rfl, h0, hdigits⟩
  · simp [integerLength]
  · have hc := hdigits c List.mem_cons_self
    have hrun := runLength_append_eq_add (fun d hd => hdigits d (List.mem_cons_of_mem c hd)) t
    have hlen : integerLength (c :: rest ++ t) = rest.length + runLength Char.isDigit t + 1 := by
      simp [integerLength, hc, hrun]
    rw [hlen, List.length_cons]
    exact ⟨by omega, fun hlt => head_of_runLength_pos (by omega)⟩

/-- A fraction at the start of a text is at most what `fractionLength` takes there, and shorter
only where a digit or a point follows it. -/
theorem FractionPart.length_le {f : List Char} (hf : FractionPart f) (t : List Char) :
    f.length ≤ fractionLength (f ++ t) ∧
      (f.length < fractionLength (f ++ t) → ∃ d ∈ t.head?, d.isDigit = true ∨ d = '.') := by
  rcases hf with rfl | ⟨ds, rfl, hne, hdigits⟩
  · refine ⟨Nat.zero_le _, fun hpos => ?_⟩
    cases t with
    | nil => simp [fractionLength] at hpos
    | cons d t =>
      refine ⟨d, rfl, .inr ?_⟩
      by_contra hd
      simp [fractionLength, hd] at hpos
  · have hrun := runLength_append_eq_add hdigits t
    have hpos : 0 < ds.length := List.length_pos_iff.mpr hne
    have hlen : fractionLength ('.' :: ds ++ t) = ds.length + runLength Char.isDigit t + 1 := by
      simp only [List.cons_append, fractionLength, hrun]
      rw [if_pos (by omega)]
    rw [hlen, List.length_cons]
    exact ⟨by omega, fun hlt => (head_of_runLength_pos (by omega)).imp fun _ h => ⟨h.1, .inl h.2⟩⟩

/-- An exponent at the start of a text is at most what `exponentLength` takes there. -/
theorem ExponentPart.length_le {e : List Char} (he : ExponentPart e) (t : List Char) :
    e.length ≤ exponentLength (e ++ t) := by
  rcases he with rfl | ⟨x, s, ds, rfl, hx, hs, hne, hdigits⟩
  · exact Nat.zero_le _
  · have hd : exponentDigitsLength (s ++ (ds ++ t)) =
        s.length + ds.length + runLength Char.isDigit t := by
      rw [← List.append_assoc]
      exact exponentDigitsLength_signed hs hne hdigits t
    have hpos : 0 < ds.length := List.length_pos_iff.mpr hne
    have hlen : exponentLength (x :: (s ++ (ds ++ t))) =
        s.length + ds.length + runLength Char.isDigit t + 1 := by
      rcases hx with rfl | rfl <;> simp only [exponentLength, hd] <;> rw [if_pos (by omega)]
    rw [List.cons_append, List.append_assoc, hlen, List.length_cons, List.length_append]
    omega

/-! ### The longest number -/

/-- Every text is an optional minus and a rest that starts with none. -/
theorem sign_split (r : List Char) :
    ∃ s body, (s = [] ∨ s = ['-']) ∧ (s = [] → body.head? ≠ some '-') ∧ r = s ++ body := by
  cases r with
  | nil => exact ⟨[], [], .inl rfl, fun _ => by simp, rfl⟩
  | cons c rest =>
    by_cases hc : c = '-'
    · subst hc
      exact ⟨['-'], rest, .inr rfl, fun h => absurd h (List.cons_ne_nil _ _), rfl⟩
    · exact ⟨[], c :: rest, .inl rfl, fun _ => by simpa using hc, rfl⟩

/-- `jsonNumberLength` adds the lengths of the parts it takes after the sign. -/
theorem jsonNumberLength_split {s body : List Char} (hs : s = [] ∨ s = ['-'])
    (hbody : s = [] → body.head? ≠ some '-') :
    jsonNumberLength (s ++ body) =
      if integerLength body = 0 then 0 else
        s.length + integerLength body + fractionLength (body.drop (integerLength body)) +
          exponentLength (body.drop (integerLength body +
            fractionLength (body.drop (integerLength body)))) := by
  rcases hs with rfl | rfl
  · simp [jsonNumberLength, hbody rfl]
  · simp [jsonNumberLength]

/-- The text `jsonNumberLength` takes, when it takes any, is a JSON number. -/
theorem jsonNumber_take {r : List Char} (h : 0 < jsonNumberLength r) :
    JsonNumber (r.take (jsonNumberLength r)) := by
  obtain ⟨s, body, hs, hbody, rfl⟩ := sign_split r
  rw [jsonNumberLength_split hs hbody] at h ⊢
  split at h
  · omega
  · rename_i hI
    rw [if_neg hI]
    generalize hIdef : integerLength body = I at hI ⊢
    generalize hFdef : fractionLength (body.drop I) = F
    generalize hEdef : exponentLength (body.drop (I + F)) = E
    have htake : (s ++ body).take (s.length + I + F + E) =
        s ++ body.take I ++ (body.drop I).take F ++ (body.drop (I + F)).take E := by
      rw [Nat.add_assoc, Nat.add_assoc, List.take_length_add_append, List.take_add,
        List.take_add, List.drop_drop]
      simp
    rw [htake]
    refine ⟨s, _, _, _, rfl, hs, ?_, ?_, ?_⟩
    · rw [← hIdef]
      exact integerPart_take (by omega)
    · rw [← hFdef]
      exact fractionPart_take _
    · rw [← hEdef]
      exact exponentPart_take _

/-- No JSON number at the start of a text is longer than what `jsonNumberLength` takes. -/
theorem JsonNumber.length_le {x : List Char} (hx : JsonNumber x) (t : List Char) :
    x.length ≤ jsonNumberLength (x ++ t) := by
  obtain ⟨s, i, f, e, rfl, hs, hi, hf, he⟩ := hx
  obtain ⟨c, i', rfl, hc⟩ := hi.head
  have hbody : s = [] → (c :: i' ++ (f ++ e ++ t)).head? ≠ some '-' := by
    rintro - h
    simp only [List.cons_append, List.head?_cons, Option.some.injEq] at h
    subst h
    cases hc
  have hsplit : s ++ c :: i' ++ f ++ e ++ t = s ++ (c :: i' ++ (f ++ e ++ t)) := by simp
  rw [hsplit, jsonNumberLength_split hs hbody]
  obtain ⟨hI, hI'⟩ := hi.length_le (f ++ e ++ t)
  generalize hIdef : integerLength (c :: i' ++ (f ++ e ++ t)) = I at hI hI' ⊢
  have hIpos : I ≠ 0 := by simp at hI; omega
  rw [if_neg hIpos]
  by_cases hlt : (c :: i').length < I
  · -- a digit follows the integer part, so neither a fraction nor an exponent does
    obtain ⟨rfl, rfl⟩ := digit_not_head hf he (hI' hlt)
    simp only [List.append_nil, List.length_append] at hlt ⊢
    omega
  · have hdrop : (c :: i' ++ (f ++ e ++ t)).drop I = f ++ (e ++ t) := by
      rw [show I = (c :: i').length by omega, List.drop_left]
      simp
    rw [hdrop]
    obtain ⟨hF, hF'⟩ := hf.length_le (e ++ t)
    generalize hFdef : fractionLength (f ++ (e ++ t)) = F at hF hF' ⊢
    by_cases hflt : f.length < F
    · -- a digit or a point follows the fraction, so no exponent does
      have he0 : e = [] := by
        obtain ⟨d, hd, hdp⟩ := hF' hflt
        refine he.eq_nil hd ⟨?_, ?_⟩ <;> rintro rfl <;> simp at hdp
      subst he0
      simp only [List.append_nil, List.length_append] at hlt ⊢
      omega
    · have hdrop' : (c :: i' ++ (f ++ e ++ t)).drop (I + F) = e ++ t := by
        rw [show I + F = (c :: i').length + f.length by omega, ← List.drop_drop, List.drop_left]
        simp
      rw [hdrop']
      have hE := he.length_le t
      simp only [List.length_append] at hlt ⊢
      omega

/-! ### The number rule -/

/-- The first `n` characters of `r` are the longest JSON number at its start. -/
def LongestNumber (r : List Char) (n : Nat) : Prop :=
  n ≤ r.length ∧ JsonNumber (r.take n) ∧ ∀ m, m ≤ r.length → JsonNumber (r.take m) → m ≤ n

theorem JsonNumber.ne_nil {x : List Char} (hx : JsonNumber x) : x ≠ [] := by
  obtain ⟨s, i, f, e, rfl, -, hi, -, -⟩ := hx
  obtain ⟨c, t, rfl, -⟩ := hi.head
  simp

/-- A JSON number that starts a text is at most as long as what `jsonNumberLength` takes. -/
theorem JsonNumber.le_jsonNumberLength {r : List Char} {m : Nat} (hm : m ≤ r.length)
    (hnum : JsonNumber (r.take m)) : m ≤ jsonNumberLength r := by
  have := hnum.length_le (r.drop m)
  rwa [List.take_append_drop, List.length_take, Nat.min_eq_left hm] at this

theorem longestNumber_iff {r : List Char} {n : Nat} :
    LongestNumber r n ↔ 0 < n ∧ n = jsonNumberLength r := by
  constructor
  · rintro ⟨hle, hnum, hmax⟩
    have hpos : 0 < n := by
      have hne := hnum.ne_nil
      simp only [ne_eq, List.take_eq_nil_iff, not_or] at hne
      omega
    have h1 := hnum.le_jsonNumberLength hle
    have h2 := hmax _ (jsonNumberLength_le r) (jsonNumber_take (by omega))
    exact ⟨hpos, by omega⟩
  · rintro ⟨hpos, rfl⟩
    exact ⟨jsonNumberLength_le r, jsonNumber_take hpos, fun m hm hnum => hnum.le_jsonNumberLength hm⟩

/-- The first `n` characters of `r` are `0` or `-0`, and a digit follows them. -/
def ZeroBeforeDigit (r : List Char) (n : Nat) : Prop :=
  (r.take n = ['0'] ∨ r.take n = ['-', '0']) ∧ ∃ d ∈ (r.drop n).head?, d.isDigit = true

theorem leadingZeroRefused_iff {r : List Char} {n : Nat} :
    leadingZeroRefused r n = true ↔ ZeroBeforeDigit r n := by
  simp [leadingZeroRefused, ZeroBeforeDigit, Option.any_eq_true]

/-- The number rule takes the longest JSON number at the start of the text, and refuses it only
when it is `0` or `-0` before a digit. -/
theorem numberRule_takes_iff_longest {r : List Char} {n : Nat} :
    numberRule.Takes r n ↔ LongestNumber r n ∧ ¬ ZeroBeforeDigit r n := by
  rw [longestNumber_iff, ← leadingZeroRefused_iff]
  simp only [Rule.Takes, numberRule]
  constructor
  · rintro ⟨h, hpos, -⟩
    split at h
    · cases h
    · rename_i hz
      cases h
      exact ⟨⟨hpos, rfl⟩, hz⟩
  · rintro ⟨⟨hpos, rfl⟩, hz⟩
    simp [hz, hpos, jsonNumberLength_le]

/-! ### The rule with a look-ahead -/

/-- The pattern with a look-ahead, `-?(0(?![0-9])|[1-9][0-9]*)(\.[0-9]+)?([eE][+-]?[0-9]+)?`,
matches the first `n` characters of `r`: they are a JSON number, and when its integer part is a
lone `0`, no digit follows that `0` in `r`. -/
def LookaheadMatch (r : List Char) (n : Nat) : Prop :=
  n ≤ r.length ∧ ∃ s i f e, r.take n = s ++ i ++ f ++ e ∧ (s = [] ∨ s = ['-']) ∧ IntegerPart i ∧
    FractionPart f ∧ ExponentPart e ∧
    (i = ['0'] → ∀ d ∈ (r.drop (s.length + 1)).head?, d.isDigit = false)

/-- What the rule with the look-ahead takes: the match that pattern prefers. It tries the minus,
then each optional part, before it leaves them out, and takes every run of digits as long as it
goes; nothing follows the optional parts, so the preferred match is the longest. -/
def LookaheadTakes (r : List Char) (n : Nat) : Prop :=
  LookaheadMatch r n ∧ ∀ m, LookaheadMatch r m → m ≤ n

/-- The text starts with `0` or `-0` and a digit. -/
def StartsWithZeroDigit (r : List Char) : Prop :=
  ∃ s d t, (s = [] ∨ s = ['-']) ∧ r = s ++ '0' :: d :: t ∧ d.isDigit = true

/-- A JSON number at the start of a text that starts with `0` or `-0` and a digit has the same
sign and the integer part `0`, and the digit comes right after it. -/
theorem split_zeroDigit {s i rest s' t : List Char} {d : Char} (hs : s = [] ∨ s = ['-'])
    (hi : IntegerPart i) (hs' : s' = [] ∨ s' = ['-']) (h : s ++ i ++ rest = s' ++ '0' :: d :: t) :
    s = s' ∧ i = ['0'] ∧ rest = d :: t := by
  obtain ⟨c, i', rfl, hc⟩ := hi.head
  have hsign : s = s' := by
    rcases hs with rfl | rfl <;> rcases hs' with rfl | rfl
    · rfl
    · simp only [List.nil_append, List.cons_append, List.cons.injEq] at h
      rw [h.1] at hc
      cases hc
    · simp at h
    · rfl
  subst hsign
  simp only [List.append_assoc, List.append_cancel_left_eq, List.cons_append,
    List.cons.injEq] at h
  obtain ⟨rfl, h⟩ := h
  rcases hi with hi | ⟨c', rest', heq, hne, -⟩
  · obtain rfl : i' = [] := (List.cons.inj hi).2
    exact ⟨rfl, rfl, h⟩
  · exact absurd (List.cons.inj heq).1.symm hne

/-- The look-ahead only rules out texts that start with `0` or `-0` and a digit. -/
theorem lookaheadMatch_iff {r : List Char} {m : Nat} :
    LookaheadMatch r m ↔ (m ≤ r.length ∧ JsonNumber (r.take m)) ∧ ¬ StartsWithZeroDigit r := by
  constructor
  · rintro ⟨hm, s, i, f, e, heq, hs, hi, hf, he, hahead⟩
    refine ⟨⟨hm, s, i, f, e, heq, hs, hi, hf, he⟩, ?_⟩
    rintro ⟨s', d, t, hs', hr, hd⟩
    have hsplit : r = s ++ i ++ (f ++ e ++ r.drop m) := by
      conv_lhs => rw [← List.take_append_drop m r, heq]
      simp
    obtain ⟨rfl, rfl, -⟩ := split_zeroDigit hs hi hs' (hsplit.symm.trans hr)
    have hdrop : r.drop (s.length + 1) = d :: t := by
      rw [hr, show s ++ '0' :: d :: t = (s ++ ['0']) ++ d :: t by simp,
        show s.length + 1 = (s ++ ['0']).length by simp, List.drop_left]
    have := hahead rfl d (by simp [hdrop])
    rw [hd] at this
    cases this
  · rintro ⟨⟨hm, s, i, f, e, heq, hs, hi, hf, he⟩, hno⟩
    refine ⟨hm, s, i, f, e, heq, hs, hi, hf, he, ?_⟩
    rintro rfl d hd
    by_contra hdig
    -- a digit after the lone `0` makes the text start with `0` or `-0` and a digit
    have hr : r = s ++ ['0'] ++ (f ++ e ++ r.drop m) := by
      conv_lhs => rw [← List.take_append_drop m r, heq]
      simp
    have hdrop : r.drop (s.length + 1) = f ++ e ++ r.drop m := by
      conv_lhs => rw [hr, show s.length + 1 = (s ++ ['0']).length by simp, List.drop_left]
    rw [hdrop] at hd
    obtain ⟨t, ht⟩ := List.head?_eq_some_iff.mp hd
    exact hno ⟨s, d, t, hs, by rw [hr, ht]; simp, by simpa using hdig⟩

/-- For the longest JSON number, `0` or `-0` before a digit means the text starts so. -/
theorem zeroBeforeDigit_iff {r : List Char} {n : Nat} (h : LongestNumber r n) :
    ZeroBeforeDigit r n ↔ StartsWithZeroDigit r := by
  constructor
  · rintro ⟨htake, d, hd, hdig⟩
    obtain ⟨t, ht⟩ := List.head?_eq_some_iff.mp hd
    have hr : r = r.take n ++ d :: t := by rw [← ht, List.take_append_drop]
    rcases htake with htake | htake
    · exact ⟨[], d, t, .inl rfl, by rw [hr, htake]; rfl, hdig⟩
    · exact ⟨['-'], d, t, .inr rfl, by rw [hr, htake]; rfl, hdig⟩
  · rintro ⟨s', d, t, hs', hr, hd⟩
    obtain ⟨-, ⟨s, i, f, e, heq, hs, hi, hf, he⟩, -⟩ := h
    have hsplit : r = s ++ i ++ (f ++ e ++ r.drop n) := by
      conv_lhs => rw [← List.take_append_drop n r, heq]
      simp
    obtain ⟨rfl, rfl, hrest⟩ := split_zeroDigit hs hi hs' (hsplit.symm.trans hr)
    obtain ⟨rfl, rfl⟩ := digit_not_head (t := r.drop n) hf he ⟨d, by rw [hrest]; rfl, hd⟩
    simp only [List.append_nil, List.nil_append] at heq hrest
    refine ⟨?_, d, by simp [hrest], hd⟩
    rcases hs with rfl | rfl
    · exact .inl heq
    · exact .inr heq

/-- The number rule takes exactly what the rule with the look-ahead takes. -/
theorem numberRule_takes_iff_lookahead {r : List Char} {n : Nat} :
    numberRule.Takes r n ↔ LookaheadTakes r n := by
  rw [numberRule_takes_iff_longest]
  simp only [LookaheadTakes, lookaheadMatch_iff]
  constructor
  · rintro ⟨⟨hle, hnum, hmax⟩, hz⟩
    have hno : ¬ StartsWithZeroDigit r := fun hS =>
      hz ((zeroBeforeDigit_iff ⟨hle, hnum, hmax⟩).mpr hS)
    exact ⟨⟨⟨hle, hnum⟩, hno⟩, fun m hm => hmax m hm.1.1 hm.1.2⟩
  · rintro ⟨⟨⟨hle, hnum⟩, hno⟩, hmax⟩
    have hL : LongestNumber r n := ⟨hle, hnum, fun m hm hnm => hmax m ⟨⟨hm, hnm⟩, hno⟩⟩
    exact ⟨hL, fun hz => hno ((zeroBeforeDigit_iff hL).mp hz)⟩

theorem numberRule_not_takes {r : List Char} (h : StartsWithZeroDigit r) (n : Nat) :
    ¬ numberRule.Takes r n := fun ht =>
  (lookaheadMatch_iff.mp (numberRule_takes_iff_lookahead.mp ht).1).2 h

/-! ### What follows a number -/

theorem digits_append_digit {ds : List Char} (hds : ∀ c ∈ ds, c.isDigit = true) {d : Char}
    (hd : d.isDigit = true) : ∀ c ∈ ds ++ [d], c.isDigit = true := by
  intro c hc
  rcases List.mem_append.mp hc with hc | hc
  · exact hds c hc
  · rw [List.mem_singleton.mp hc]
    exact hd

/-- A digit added to a JSON number other than `0` and `-0` lengthens its last part. -/
theorem JsonNumber.append_digit {x : List Char} (hx : JsonNumber x) (h0 : x ≠ ['0'])
    (h1 : x ≠ ['-', '0']) {d : Char} (hd : d.isDigit = true) : JsonNumber (x ++ [d]) := by
  obtain ⟨s, i, f, e, rfl, hs, hi, hf, he⟩ := hx
  rcases he with rfl | ⟨c, sg, ds, rfl, hc, hsg, -, hds⟩
  · rcases hf with rfl | ⟨ds, rfl, -, hds⟩
    · -- the integer part is last, and it is not a lone `0`
      rcases hi with rfl | ⟨c, rest, rfl, hc, hdigits⟩
      · rcases hs with rfl | rfl
        · exact absurd rfl h0
        · exact absurd rfl h1
      · refine ⟨s, c :: (rest ++ [d]), [], [], by simp, hs, .inr ⟨c, rest ++ [d], rfl, hc, ?_⟩,
          .inl rfl, .inl rfl⟩
        exact digits_append_digit hdigits hd
    · -- the fraction is last
      refine ⟨s, i, '.' :: (ds ++ [d]), [], by simp, hs, hi,
        .inr ⟨ds ++ [d], rfl, by simp, digits_append_digit hds hd⟩, .inl rfl⟩
  · -- the exponent is last
    refine ⟨s, i, f, c :: (sg ++ (ds ++ [d])), by simp, hs, hi, hf,
      .inr ⟨c, sg, ds ++ [d], rfl, hc, hsg, by simp, digits_append_digit hds hd⟩⟩

/-- No digit follows what the number rule takes. -/
theorem numberRule_next_not_digit {r : List Char} {n : Nat} (h : numberRule.Takes r n) :
    ∀ d ∈ (r.drop n).head?, d.isDigit = false := by
  obtain ⟨⟨hle, hnum, hmax⟩, hz⟩ := numberRule_takes_iff_longest.mp h
  intro d hd
  by_contra hdig
  replace hdig : d.isDigit = true := by simpa using hdig
  -- `0` or `-0` before a digit is refused, and any other number grows by the digit
  have h0 : r.take n ≠ ['0'] := fun h0 => hz ⟨.inl h0, d, hd, hdig⟩
  have h1 : r.take n ≠ ['-', '0'] := fun h1 => hz ⟨.inr h1, d, hd, hdig⟩
  have hnth : r[n]? = some d := by rw [← List.head?_drop]; exact hd
  have hlen : n < r.length := (List.getElem?_eq_some_iff.mp hnth).1
  have htake : r.take (n + 1) = r.take n ++ [d] := by simp [List.take_add_one, hnth]
  have := hmax (n + 1) hlen (htake ▸ hnum.append_digit h0 h1 hdig)
  omega

variable {v : Version}

/-- Only the number rule makes number tokens. -/
theorem firstMatch_number {cs : List Char} {n : Nat}
    (h : firstMatch (scimRules v) cs = some (.number, n)) : numberRule.Takes cs n := by
  obtain ⟨pre, r, post, hrules, -, hk, ht⟩ :=
    (firstMatch_eq_some_iff (scimRules v) cs .number n).mp h
  have hr : r ∈ scimRules v := by simp [hrules]
  rcases mem_scimRules hr with rfl | rfl | rfl | rfl | rfl | rfl | rfl | rfl | rfl | rfl | rfl
  case inr.inl => exact ht
  all_goals simp [whitespaceRule, stringRule, nameRule, single] at hk

open Grammar (lexemes) in
/-- A number token of a scan is a JSON number, and the input has no digit right after it. -/
theorem scimScan_number {s : String} {ts pre post : List (Token TokenKind)} {t : Token TokenKind}
    (hs : scimScan v s = .ok ts) (hsplit : ts = pre ++ t :: post) (hk : t.kind = .number) :
    JsonNumber t.text.toList ∧ ∃ rest, s.toList = joinedLexemes (lexemes pre) ++ t.text.toList ++ rest ∧
      ∀ d ∈ rest.head?, d.isDigit = false := by
  have hr := reads_of_scanFrom hs
  rw [hsplit, Grammar.lexemes_append, Grammar.lexemes_cons] at hr
  obtain ⟨hpre, hnum⟩ := hr.split
  have htext := hpre.text_eq
  generalize hcs : joinedLexemes (t.lexeme :: lexemes post) ++ [] = cs at hpre hnum htext
  obtain ⟨kind, text, o, p⟩ := t
  simp only [Token.lexeme] at hk hnum ⊢
  subst hk
  cases hnum with
  | @step _ _ _ _ n hm hrest =>
    have ht := firstMatch_number hm
    obtain ⟨⟨-, hjson, -⟩, -⟩ := numberRule_takes_iff_longest.mp ht
    refine ⟨by simpa using hjson, cs.drop n, ?_, numberRule_next_not_digit ht⟩
    rw [htext, List.append_assoc, String.toList_ofList, List.take_append_drop]

/-- `0` or `-0` and more digits make one name: the number rule refuses them and the name rule
takes them whole. -/
theorem firstMatch_zeroDigits (v : Version) {s ds : List Char} (hs : s = [] ∨ s = ['-'])
    (hne : ds ≠ []) (hds : ∀ d ∈ ds, d.isDigit = true) :
    firstMatch (scimRules v) (s ++ '0' :: ds) = some (.name, (s ++ '0' :: ds).length) := by
  have hS : StartsWithZeroDigit (s ++ '0' :: ds) := by
    obtain ⟨d, t, rfl⟩ := List.exists_cons_of_ne_nil hne
    exact ⟨s, d, t, hs, rfl, hds d List.mem_cons_self⟩
  have hchars : isBlank '0' = false ∧ isBlank '-' = false ∧ isNameChar '0' = true ∧
      isNameChar '-' = true := by decide
  have hname : ∀ c ∈ s ++ '0' :: ds, isNameChar c = true := by
    intro c hc
    simp only [List.mem_append, List.mem_cons] at hc
    rcases hc with hc | rfl | hc
    · rcases hs with rfl | rfl <;> simp_all
    · exact hchars.2.2.1
    · simp [isNameChar, Char.isAlphanum, hds c hc]
  rw [firstMatch_eq_some_iff]
  refine ⟨[whitespaceRule, numberRule, stringRule, single .dot '.', single .colon ':',
    single .slash '/', single .openParen '(', single .closeParen ')'], nameRule,
    if v.supportsValueFilters then [single .openBracket '[', single .closeBracket ']'] else [],
    rfl, ?_, rfl, ?_⟩
  · intro r hr m ht
    rcases List.mem_cons.mp hr with rfl | hr
    · -- the text starts with `0` or `-`, which are not blank
      obtain ⟨ht, hm, -⟩ := ht
      rcases hs with rfl | rfl <;> simp_all [whitespaceRule, runLength]
    rcases List.mem_cons.mp hr with rfl | hr
    · exact numberRule_not_takes hS m ht
    · obtain ⟨ht, -⟩ := ht
      simp only [List.mem_cons, List.not_mem_nil, or_false] at hr
      rcases hr with rfl | rfl | rfl | rfl | rfl | rfl <;> rcases hs with rfl | rfl <;>
        simp [stringRule, stringLength, single] at ht
  · refine ⟨?_, by simp, le_refl _⟩
    simp [nameRule, runLength, List.takeWhile_eq_self_iff.mpr hname]

/-- A run of digits that starts with `0`, after an optional minus, is scanned as one name. -/
theorem scimScan_zeroDigits (v : Version) (negative : Bool) {ds : List Char} (hne : ds ≠ [])
    (hds : ∀ d ∈ ds, d.isDigit = true) :
    let w := String.ofList ((if negative then ['-'] else []) ++ '0' :: ds)
    scimScan v w = .ok [⟨.name, w, 0, 0⟩] := by
  intro w
  have hs : (if negative then ['-'] else []) = [] ∨ (if negative then ['-'] else []) = ['-'] := by
    cases negative <;> simp
  have hm := firstMatch_zeroDigits v hs hne hds
  rw [← String.toList_ofList (l := (if negative then ['-'] else []) ++ '0' :: ds)] at hm
  rw [scimScan, scan, scanFrom_of_firstMatch 0 0 hm, List.drop_length, List.take_length,
    scanFrom_nil, String.ofList_toList]
  rfl

example : scimScan .v2 "-007" = .ok [⟨.name, "-007", 0, 0⟩] := by decide +kernel

open Grammar in
/-- A number token is a literal of a comparison exactly when its value is finite as a double. -/
theorem compareValue_number_ok_iff (ctx : Context) {t : Token TokenKind} (hk : t.kind = .number)
    (rest : Tokens) :
    (∃ val r, compareValue ctx (t :: rest) = .ok (val, r)) ↔
      (Decimal.readNumber t.text.toList).isFinite = true := by
  obtain ⟨kind, text, o, p⟩ := t
  simp only at hk
  subst hk
  constructor
  · rintro ⟨val, r, h⟩
    obtain ⟨t', ht', hlit⟩ := compareValue_eq_ok h
    obtain ⟨rfl, -⟩ := List.cons.inj ht'
    cases hlit with
    | number _ finite => exact finite
  · intro hfin
    exact ⟨_, _, compareValue_cons rest (IsLiteral.number text hfin)⟩

open Grammar in
/-- The number rule takes what the rule with a look-ahead takes: the longest JSON number at the
start of the text, refused only when it is `0` or `-0` before a digit. So a number token of a
scan is a JSON number with no digit after it in the input, a run of digits with a leading zero
falls through to the name rule, and a number token is a literal of a comparison exactly when
its value is finite as a double. -/
theorem numberRule_matches_lookahead_rule :
    (∀ r n, numberRule.Takes r n ↔ LookaheadTakes r n) ∧
    (∀ r n, numberRule.Takes r n ↔ LongestNumber r n ∧ ¬ ZeroBeforeDigit r n) ∧
    (∀ v s ts pre post (t : Token TokenKind), scimScan v s = .ok ts → ts = pre ++ t :: post →
      t.kind = .number → JsonNumber t.text.toList ∧
        ∃ rest, s.toList = joinedLexemes (lexemes pre) ++ t.text.toList ++ rest ∧
          ∀ d ∈ rest.head?, d.isDigit = false) ∧
    (∀ v (negative : Bool) (ds : List Char), ds ≠ [] → (∀ d ∈ ds, d.isDigit = true) →
      let w := String.ofList ((if negative then ['-'] else []) ++ '0' :: ds)
      scimScan v w = .ok [⟨.name, w, 0, 0⟩]) ∧
    (∀ ctx (t : Token TokenKind) rest, t.kind = .number →
      ((∃ val r, compareValue ctx (t :: rest) = .ok (val, r)) ↔
        (Decimal.readNumber t.text.toList).isFinite = true)) :=
  ⟨fun _ _ => numberRule_takes_iff_lookahead, fun _ _ => numberRule_takes_iff_longest,
    fun _ _ _ _ _ _ hs hsplit hk => scimScan_number hs hsplit hk,
    fun v negative _ hne hds => scimScan_zeroDigits v negative hne hds,
    fun ctx _ rest hk => compareValue_number_ok_iff ctx hk rest⟩

end ScimFilter.Lexer
