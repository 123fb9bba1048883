/-!
Reading a decimal number text (`-`, digits, optional `.digits`, optional `e±digits`) as the
nearest double. A value too large for a double is an infinity and one too small is a zero
of the text's sign; both are decided from the count of digits and the exponent before any
power is computed, so a huge exponent costs nothing.
-/

namespace ScimFilter.Decimal

/-- The number that a list of decimal digits spells. -/
def digitsValue (ds : List Char) : Nat :=
  ds.foldl (fun acc c => 10 * acc + (c.toNat - '0'.toNat)) 0

/-- The nearest double to `m · 10^e`, for a mantissa `m` with `len` digits. -/
def nearestDouble (m len : Nat) (e : Int) : Float :=
  if m = 0 then 0
  -- `m · 10^e ≥ 10^(len - 1 + e) ≥ 10^309` lies beyond the largest double
  else if 309 ≤ (len : Int) - 1 + e then 1 / 0
  -- `m · 10^e < 10^(len + e) ≤ 10^-325` lies below half the smallest double
  else if (len : Int) + e ≤ -325 then 0
  else if e < 0 then Float.ofScientific m true e.natAbs
  else Float.ofScientific m false e.toNat

/-- The nearest double to a number text. -/
def readNumber (cs : List Char) : Float :=
  let negative := cs.head? = some '-'
  let cs := if negative then cs.drop 1 else cs
  let whole := cs.takeWhile Char.isDigit
  let cs := cs.dropWhile Char.isDigit
  let (fraction, cs) := match cs with
    | '.' :: rest => (rest.takeWhile Char.isDigit, rest.dropWhile Char.isDigit)
    | _ => ([], cs)
  let exponent : Int := match cs with
    | 'e' :: '-' :: rest | 'E' :: '-' :: rest => -(digitsValue (rest.takeWhile Char.isDigit) : Int)
    | 'e' :: '+' :: rest | 'E' :: '+' :: rest | 'e' :: rest | 'E' :: rest =>
      digitsValue (rest.takeWhile Char.isDigit)
    | _ => 0
  let mantissa := whole ++ fraction
  let significant := mantissa.dropWhile (· == '0')
  let magnitude := nearestDouble (digitsValue significant) significant.length
    (exponent - fraction.length)
  if negative then -magnitude else magnitude

end ScimFilter.Decimal
