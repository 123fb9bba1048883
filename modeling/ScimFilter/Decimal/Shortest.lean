/-!
Shortest decimal digits of a double. A finite double is `mantissa · 2^exponent`; the reals
that round to it form an interval around it, with its ends included when the mantissa is
even. For 1, 2, … 17 digits the value's two neighbours on that decimal grid are tested in exact
natural-number arithmetic: the first grid with a neighbour inside the interval gives the
digits, of two neighbours inside it the nearer one, and an exact tie goes as the caller says.
If a point of a grid lies in the interval so does one of the value's two neighbours on it,
so no shorter decimal reads back as the same double.
-/

namespace ScimFilter.Decimal

/-- A finite double without its sign: `mantissa · 2^exponent`. -/
structure Binary where
  mantissa : Nat
  exponent : Int
  /-- The gap to the next smaller double is half the gap to the next larger one. This is so
  for the smallest mantissa of every binade but the lowest. -/
  narrowBelow : Bool
  deriving DecidableEq, Repr

/-- A decimal number `digits · 10^exponent`. -/
structure Digits where
  digits : Nat
  exponent : Int
  deriving DecidableEq, Repr

/-- How an exact tie between two nearest candidates is broken. -/
inductive Tie where
  | toEven
  | up
  deriving DecidableEq, Repr

/-- The sign of a double and its magnitude, for finite doubles. -/
def Binary.ofFloat? (x : Float) : Option (Bool × Binary) :=
  let bits : Nat := x.toBits.toNat
  let negative := bits / Nat.pow 2 63 == 1
  let biased : Nat := (bits / Nat.pow 2 52) % Nat.pow 2 11
  let fraction : Nat := bits % Nat.pow 2 52
  if biased == Nat.pow 2 11 - 1 then none
  else if biased == 0 then some (negative, ⟨fraction, -1074, false⟩)
  else some (negative, ⟨fraction + Nat.pow 2 52, (biased : Int) - 1075, fraction == 0 && biased > 1⟩)

/-- Compares `a · 10^i` with `b · 2^k`. -/
def compareScaled (a : Nat) (i : Int) (b : Nat) (k : Int) : Ordering :=
  compare (a * Nat.pow 10 i.toNat * Nat.pow 2 (-k).toNat) (b * Nat.pow 2 k.toNat * Nat.pow 10 (-i).toNat)

namespace Binary

/-- The ends of the rounding interval, in units of `2^(exponent - 2)`. -/
def lowerEnd (b : Binary) : Nat := 4 * b.mantissa - (if b.narrowBelow then 1 else 2)

def upperEnd (b : Binary) : Nat := 4 * b.mantissa + 2

/-- The interval's ends belong to it when the mantissa is even (ties round to even). -/
def endsIncluded (b : Binary) : Bool := b.mantissa % 2 == 0

/-- Whether `c · 10^j` rounds to this double. -/
def reads (b : Binary) (c : Nat) (j : Int) : Bool :=
  let lo := compareScaled c j b.lowerEnd (b.exponent - 2)
  let hi := compareScaled c j b.upperEnd (b.exponent - 2)
  if b.endsIncluded then lo != .lt && hi != .gt else lo == .gt && hi == .lt

/-- The value as a fraction `numerator / denominator` of grid units `10^j`. -/
def gridFraction (b : Binary) (j : Int) : Nat × Nat :=
  (b.mantissa * Nat.pow 2 b.exponent.toNat * Nat.pow 10 (-j).toNat,
    Nat.pow 2 (-b.exponent).toNat * Nat.pow 10 j.toNat)

/-- The decimal exponent `e` with `10^e ≤ value < 10^(e+1)`, for a nonzero value. -/
def decimalExponent (b : Binary) : Int :=
  let e2 : Int := (b.mantissa.log2 : Int) + b.exponent
  let guess := (e2 * 78913).fdiv 262144
  let above (e : Int) : Bool := compareScaled 1 e (4 * b.mantissa) (b.exponent - 2) != .gt
  -- the guess is off by at most one; two steps each way are ample
  let up := if above (guess + 1) then (if above (guess + 2) then guess + 2 else guess + 1) else guess
  if above up then up else if above (up - 1) then up - 1 else up - 2

/-- The nearest candidate on the grid `10^j` that reads back, if any. -/
def onGrid (b : Binary) (tie : Tie) (j : Int) : Option Digits :=
  let (num, den) := b.gridFraction j
  let lo := num / den
  if num % den == 0 then
    if b.reads lo j then some ⟨lo, j⟩ else none
  else
    let hi := lo + 1
    match b.reads lo j, b.reads hi j with
    | true, true =>
      match compare (2 * num) ((2 * lo + 1) * den) with
      | .lt => some ⟨lo, j⟩
      | .gt => some ⟨hi, j⟩
      | .eq => match tie with
        | .up => some ⟨hi, j⟩
        | .toEven => some ⟨if lo % 2 == 0 then lo else hi, j⟩
    | true, false => some ⟨lo, j⟩
    | false, true => some ⟨hi, j⟩
    | false, false => none

end Binary

def Digits.normalize (d : Digits) : Digits :=
  if h : d.digits ≠ 0 ∧ d.digits % 10 = 0 then
    normalize ⟨d.digits / 10, d.exponent + 1⟩
  else d
termination_by d.digits
decreasing_by omega

/-- The fewest digits that read back as the double, the nearest of those. -/
def Binary.shortest (b : Binary) (tie : Tie) : Digits :=
  if b.mantissa = 0 then ⟨0, 0⟩ else
  let e := b.decimalExponent
  let grid (n : Nat) : Int := e + 1 - n
  match (List.range 17).findSome? (fun i => b.onGrid tie (grid (i + 1))) with
  | some d => d.normalize
  | none => ⟨(b.gridFraction (grid 17)).1 / (b.gridFraction (grid 17)).2, grid 17⟩

end ScimFilter.Decimal
