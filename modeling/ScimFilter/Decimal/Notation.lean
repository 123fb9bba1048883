import ScimFilter.Decimal.Shortest
/-!
Writing a double as text. The digits are always the shortest that read back
(`Binary.shortest`); a `Style` decides the rest: for which positions of the decimal point the
number is written positionally, whether integral values keep `.0`, and how ties between two
nearest candidates are broken. An exponent carries a sign only when it is negative.
-/

namespace ScimFilter.Decimal

/-- The layout decisions of a number format. The point position `k` of digits `d₁…dₙ` is the
one with value `0.d₁…dₙ · 10^k`. -/
structure Style where
  /-- Point positions `k` with `lo < k ≤ hi` are written positionally; `none` means all. -/
  positional : Option (Int × Int)
  /-- Integral values written positionally end in `.0`. -/
  pointZero : Bool
  tie : Tie

/-- Plain text: always positional, integral values without a point, `-0` for negative zero. -/
def Style.plain : Style := ⟨none, false, .toEven⟩

/-- JSON numbers: positional for `1e-5 ≤ |x| < 1e16`, else `d.dddex` with a sign only on a
negative exponent (`1e16`, `1.25e-7`); integral values end in `.0`. -/
def Style.json : Style := ⟨some (-5, 16), true, .toEven⟩

def zeros (n : Nat) : List Char := List.replicate n '0'

/-- Digits `ds` with point position `k`, written positionally. -/
def positionalText (pointZero : Bool) (ds : List Char) (k : Int) : List Char :=
  let n : Int := ds.length
  if n ≤ k then ds ++ zeros (k - n).toNat ++ (if pointZero then ['.', '0'] else [])
  else if 0 < k then ds.take k.toNat ++ '.' :: ds.drop k.toNat
  else '0' :: '.' :: zeros (-k).toNat ++ ds

/-- Digits `ds` with point position `k`, written with an exponent. -/
def exponentText (ds : List Char) (k : Int) : List Char :=
  let e := k - 1
  let mantissa := match ds with
    | d :: rest@(_ :: _) => d :: '.' :: rest
    | _ => ds
  let sign := if e < 0 then ['-'] else []
  mantissa ++ 'e' :: sign ++ Nat.toDigits 10 e.natAbs

/-- A decimal written in the style; `negative` adds the sign. -/
def Style.write (style : Style) (negative : Bool) (d : Digits) : String :=
  let sign := if negative then ['-'] else []
  let body :=
    if d.digits = 0 then (if style.pointZero then ['0', '.', '0'] else ['0']) else
    let ds := Nat.toDigits 10 d.digits
    let k := d.exponent + ds.length
    let inWindow := match style.positional with
      | none => true
      | some (lo, hi) => lo < k && k ≤ hi
    if inWindow then positionalText style.pointZero ds k else exponentText ds k
  String.ofList (sign ++ body)

/-- A double written in the style; NaN and the infinities as `NaN`, `inf` and `-inf`. -/
def Style.float (style : Style) (x : Float) : String :=
  match Binary.ofFloat? x with
  | some (negative, b) => style.write negative (b.shortest style.tie)
  | none => if x.isNaN then "NaN" else if 0 < x then "inf" else "-inf"

end ScimFilter.Decimal
