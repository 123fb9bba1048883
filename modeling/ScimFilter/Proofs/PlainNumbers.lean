import ScimFilter.Proofs.Boundaries
import ScimFilter.Decimal.Notation
import Mathlib
/-!
Numbers in plain notation are read as one number token. A finite double is written as an
optional minus, an integer part (`0`, or digits that start with `1` to `9`) and an optional
fraction (a point and digits), never with an exponent; such a text is a JSON number as long as
itself, so the number rule takes it whole (`Reads.plain_float`).
-/

namespace ScimFilter.Decimal

/-- The decimal digits of a positive number start with a digit other than `0`. -/
theorem toDigits_head {m : Nat} (hm : 0 < m) :
    ∃ c t, Nat.toDigits 10 m = c :: t ∧ c ≠ '0' := by
  induction m using Nat.strongRecOn with
  | ind m ih =>
    rw [Nat.toDigits_eq_if (by decide)]
    split
    · rename_i hlt
      have hdigit : ∀ n, n < 10 → 0 < n → Nat.digitChar n ≠ '0' := by decide
      exact ⟨_, [], rfl, hdigit m hlt hm⟩
    · rename_i hge
      obtain ⟨c, t, hct, hc⟩ := ih (m / 10) (by omega) (by omega)
      exact ⟨c, t ++ [Nat.digitChar (m % 10)], by rw [hct]; rfl, hc⟩

/-- A finite double has a sign and a magnitude. -/
theorem Binary.ofFloat?_isSome {x : Float} (h : x.isFinite = true) : (Binary.ofFloat? x).isSome = true := by
  simp only [Float.isFinite, Float.Model.isFinite, Float.Model.unpack,
    Float.Model.UnpackedFloat.unpack] at h
  split at h
  · split at h <;> simp [Float.Model.UnpackedFloat.isFinite] at h
  · rename_i hexp
    simp only [Float.Model.UnpackedFloat.unpackExponent, BitVec.toNat_eq, BitVec.toNat_cast,
      BitVec.extractLsb_toNat, BitVec.neg_one_eq_allOnes, BitVec.toNat_allOnes,
      Nat.shiftRight_eq_div_pow] at hexp
    have hne : (x.toBits.toNat / Nat.pow 2 52 % Nat.pow 2 11 == Nat.pow 2 11 - 1) = false :=
      beq_eq_false_iff_ne.mpr hexp
    simp only [Binary.ofFloat?, hne, Bool.false_eq_true, if_false]
    split <;> rfl

end ScimFilter.Decimal

namespace ScimFilter.Lexer

/-- The integer part of a number in plain notation: `0`, or digits that start with `1` to `9`. -/
def IntegerPart (cs : List Char) : Prop :=
  cs = ['0'] ∨ ∃ c rest, cs = c :: rest ∧ c ≠ '0' ∧ ∀ d ∈ c :: rest, d.isDigit = true

/-- The fraction of a number in plain notation: nothing, or a point and digits. -/
def FractionPart (cs : List Char) : Prop :=
  cs = [] ∨ ∃ ds, cs = '.' :: ds ∧ ds ≠ [] ∧ ∀ d ∈ ds, d.isDigit = true

theorem runLength_append_of_all {p : Char → Bool} {cs : List Char} (h : ∀ c ∈ cs, p c = true)
    (t : List Char) (ht : ∀ d ∈ t.head?, p d = false) : runLength p (cs ++ t) = cs.length := by
  have hcs : cs.takeWhile p = cs := List.takeWhile_eq_self_iff.mpr h
  have ht' : t.takeWhile p = [] := by
    cases t with
    | nil => rfl
    | cons d t => simp [ht d rfl]
  simp [runLength, List.takeWhile_append, hcs, ht']

theorem FractionPart.head_not_digit {f : List Char} (hf : FractionPart f) :
    ∀ d ∈ f.head?, d.isDigit = false := by
  rcases hf with rfl | ⟨ds, rfl, -, -⟩
  · simp
  · simp only [List.head?_cons, Option.mem_def, Option.some.injEq]
    rintro d rfl
    decide

theorem integerLength_of_parts {i f : List Char} (hi : IntegerPart i) (hf : FractionPart f) :
    integerLength (i ++ f) = i.length := by
  rcases hi with rfl | ⟨c, rest, rfl, hc, hdigits⟩
  · simp [integerLength]
  · have hrest := runLength_append_of_all (fun d hd => hdigits d (List.mem_cons_of_mem c hd)) f
      hf.head_not_digit
    simp [integerLength, hdigits c List.mem_cons_self, hrest]

theorem fractionLength_of_part {f : List Char} (hf : FractionPart f) : fractionLength f = f.length := by
  rcases hf with rfl | ⟨ds, rfl, hne, hdigits⟩
  · rfl
  · have hrun : runLength Char.isDigit ds = ds.length := by
      simpa using runLength_append_of_all hdigits [] (by simp)
    have hpos : 0 < ds.length := List.length_pos_iff.mpr hne
    simp [fractionLength, hrun, hpos]

/-- A number in plain notation is a JSON number as long as its text. -/
theorem jsonNumberLength_of_parts (negative : Bool) {i f : List Char} (hi : IntegerPart i)
    (hf : FractionPart f) :
    jsonNumberLength ((if negative then ['-'] else []) ++ i ++ f) =
      ((if negative then ['-'] else []) ++ i ++ f).length := by
  have hhead : (i ++ f).head? ≠ some '-' := by
    rcases hi with rfl | ⟨c, rest, rfl, -, hdigits⟩
    · simp
    · have hc := hdigits c List.mem_cons_self
      simp only [List.cons_append, List.head?_cons, ne_eq, Option.some.injEq]
      rintro rfl
      cases hc
  have hne : i.length ≠ 0 := by
    rcases hi with rfl | ⟨c, rest, rfl, -, -⟩ <;> simp
  have hint := integerLength_of_parts hi hf
  have hfrac : (i ++ f).drop i.length = f := List.drop_left
  -- what is left after the integer part and the fraction is nothing, so no exponent
  have hend : (i ++ f).drop (i.length + f.length) = [] := List.drop_eq_nil_of_le (by simp)
  have hexp : exponentLength [] = 0 := rfl
  cases negative with
  | false =>
    simp only [jsonNumberLength, Bool.false_eq_true, if_false, List.nil_append, if_neg hhead,
      List.drop_zero, hint, if_neg hne, hfrac, fractionLength_of_part hf, Nat.zero_add, hend, hexp,
      Nat.add_zero,
      List.length_append]
  | true =>
    simp only [jsonNumberLength, if_true, List.cons_append, List.nil_append, List.head?_cons,
      List.drop_succ_cons, List.drop_zero, hint, if_neg hne, hfrac, fractionLength_of_part hf,
      Nat.add_assoc, hend, hexp, List.length_cons, List.length_append]
    omega

open Decimal in
theorem isDigit_of_mem_zeros {z : Nat} {c : Char} (h : c ∈ zeros z) : c.isDigit = true := by
  rw [zeros, List.mem_replicate] at h
  rw [h.2]
  rfl

open Decimal in
/-- A non-empty start of the digits of a positive number, zeros added, is an integer part. -/
theorem integerPart_digits {m z : Nat} (hm : 0 < m) {i : List Char}
    (hpre : i <+: Nat.toDigits 10 m ++ zeros z) (hne : i ≠ []) : IntegerPart i := by
  obtain ⟨c, t, hct, hc⟩ := toDigits_head hm
  obtain ⟨c', t', rfl⟩ := List.exists_cons_of_ne_nil hne
  have hdigit : ∀ d ∈ Nat.toDigits 10 m ++ zeros z, d.isDigit = true := by
    intro d hd
    rcases List.mem_append.mp hd with hd | hd
    · exact Nat.isDigit_of_mem_toDigits (by decide) (by decide) hd
    · exact isDigit_of_mem_zeros hd
  rw [hct, List.cons_append] at hpre hdigit
  obtain ⟨rfl, -⟩ := List.cons_prefix_cons.mp hpre
  exact .inr ⟨c', t', rfl, hc, fun d hd => hdigit d (hpre.subset hd)⟩

open Decimal in
/-- The positional text of the digits of a positive number is an integer part and a
fraction. -/
theorem positionalText_parts {m : Nat} (hm : 0 < m) (k : Int) :
    ∃ i f, positionalText false (Nat.toDigits 10 m) k = i ++ f ∧ IntegerPart i ∧ FractionPart f := by
  have hds := Nat.toDigits_ne_nil (n := m) (b := 10)
  simp only [positionalText, Bool.false_eq_true, if_false, List.append_nil]
  split
  · exact ⟨_, [], (List.append_nil _).symm, integerPart_digits hm List.prefix_rfl (by simp [hds]),
      .inl rfl⟩
  · rename_i hlong
    split
    · rename_i hk
      refine ⟨_, _, rfl, integerPart_digits (z := 0) hm ?_ ?_, .inr ⟨_, rfl, ?_, ?_⟩⟩
      · simpa [zeros] using List.take_prefix _ _
      · simp [hds]
        omega
      · simp
        omega
      · intro c hc
        exact Nat.isDigit_of_mem_toDigits (by decide) (by decide) (List.mem_of_mem_drop hc)
    · refine ⟨['0'], _, rfl, .inl rfl, .inr ⟨_, rfl, by simp [hds], ?_⟩⟩
      intro c hc
      rcases List.mem_append.mp hc with hc | hc
      · exact isDigit_of_mem_zeros hc
      · exact Nat.isDigit_of_mem_toDigits (by decide) (by decide) hc

open Decimal in
/-- Plain notation writes an optional minus, an integer part and a fraction. -/
theorem plain_write_parts (negative : Bool) (d : Digits) :
    ∃ i f, (Style.plain.write negative d).toList = (if negative then ['-'] else []) ++ i ++ f ∧
      IntegerPart i ∧ FractionPart f := by
  by_cases hzero : d.digits = 0
  · refine ⟨['0'], [], ?_, .inl rfl, .inl rfl⟩
    simp [Style.write, Style.plain, hzero]
  · obtain ⟨i, f, hbody, hi, hf⟩ := positionalText_parts (Nat.pos_of_ne_zero hzero)
      (d.exponent + (Nat.toDigits 10 d.digits).length)
    refine ⟨i, f, ?_, hi, hf⟩
    simp [Style.write, Style.plain, hzero, hbody]

theorem isBlank_of_isDigit {c : Char} (h : c.isDigit = true) : Text.isBlank c = false := by
  simp only [Char.isDigit, Bool.and_eq_true, decide_eq_true_eq] at h
  simp only [Text.isBlank, Bool.or_eq_false_iff, Bool.and_eq_false_iff, decide_eq_false_iff_not,
    beq_eq_false_iff_ne, ne_eq, Char.toNat]
  have h1 := h.1
  have h2 := h.2
  have h48 : ('0' : Char).val.toNat = 48 := rfl
  have h57 : ('9' : Char).val.toNat = 57 := rfl
  simp only [UInt32.le_iff_toNat_le] at h1 h2
  omega

/-- The first rule that matches a number in plain notation takes it whole as a number. -/
theorem firstMatch_plain (v : Version) (negative : Bool) {i f : List Char} (hi : IntegerPart i)
    (hf : FractionPart f) :
    firstMatch (scimRules v) ((if negative then ['-'] else []) ++ i ++ f) =
      some (.number, ((if negative then ['-'] else []) ++ i ++ f).length) := by
  obtain ⟨c, rest, hcs, hc⟩ : ∃ c rest, (if negative then ['-'] else []) ++ i ++ f = c :: rest ∧
      Text.isBlank c = false := by
    cases negative
    · rcases hi with rfl | ⟨c, rest, rfl, -, hdigits⟩
      · exact ⟨'0', f, rfl, by decide⟩
      · exact ⟨c, rest ++ f, rfl, isBlank_of_isDigit (hdigits c List.mem_cons_self)⟩
    · exact ⟨'-', i ++ f, by simp, by decide⟩
  have hlen := jsonNumberLength_of_parts negative hi hf
  rw [hcs] at hlen ⊢
  have hrefused : leadingZeroRefused (c :: rest) (c :: rest).length = false := by
    simp [leadingZeroRefused]
  have hblank : whitespaceRule.take (c :: rest) = some 0 := by
    simp [whitespaceRule, runLength, hc]
  have hnumber : numberRule.take (c :: rest) = some (c :: rest).length := by
    simp only [numberRule, hlen, hrefused, Bool.false_eq_true, if_false]
  simp only [scimRules, List.cons_append, firstMatch, hblank, hnumber]
  simp [numberRule]

open Decimal in
/-- The plain text of a finite double is read as one number. -/
theorem Reads.plain_float (v : Version) {x : Float} (h : x.isFinite = true) :
    Reads (scimRules v) (Style.plain.float x).toList [(.number, Style.plain.float x)] [] := by
  obtain ⟨⟨negative, b⟩, hb⟩ := Option.isSome_iff_exists.mp (Binary.ofFloat?_isSome h)
  have hfloat : Style.plain.float x = Style.plain.write negative (b.shortest .toEven) := by
    simp only [Style.float, hb]
    rfl
  obtain ⟨i, f, htext, hi, hf⟩ := plain_write_parts negative (b.shortest .toEven)
  apply Reads.whole
  rw [hfloat, htext]
  exact firstMatch_plain v negative hi hf

end ScimFilter.Lexer
