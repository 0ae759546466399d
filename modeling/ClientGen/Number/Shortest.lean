import ClientGen.Number.Binary64
import ClientGen.Number.Integer

/-!
# Shortest decimal text of a double

A double is written with the fewest digits that read back as the same double, the
nearest such decimal where several have that length. The text is positional while the
decimal point falls among or near the digits and has an exponent otherwise.
-/
namespace ClientGen.Number

-- A power is a repeated product.
attribute [local instance (high)] instPowNat

/-! ## 1. Digits -/

/-- Bounds of the numbers that round to a double, doubled twice so that they are whole:
the double is `4 · m` units, the bounds are `low` and `high` units, and they belong to
the interval when the significand is even. -/
structure RoundingInterval where
  low : Nat
  value : Nat
  high : Nat
  closed : Bool

/-- Interval of a positive finite double; below a power of two the lower half is
narrower. -/
def roundingInterval (m : Nat) (q : Int) : RoundingInterval :=
  { low := if m = 2 ^ (52 : Nat) && -1074 < q then 4 * m - 1 else 4 * m - 2
    value := 4 * m
    high := 4 * m + 2
    closed := m % 2 = 0 }

/-- Tells whether `d · 10^k` lies in the interval, whose unit is `num / den`. -/
def RoundingInterval.holds (i : RoundingInterval) (num den : Nat) (d : Nat) (k : Int) : Bool :=
  -- compare d · 10^k with bound · num / den
  let left := if 0 ≤ k then d * 10 ^ k.toNat * den else d * den
  let scale := if 0 ≤ k then num else num * 10 ^ (-k).toNat
  if i.closed then i.low * scale ≤ left && left ≤ i.high * scale
  else i.low * scale < left && left < i.high * scale

/-- Decimal digits and exponent of ten: `digits · 10^exponent`. -/
structure DecimalDigits where
  digits : Nat
  exponent : Int
  deriving DecidableEq, Repr

/-- Number without its trailing zeros, which the exponent takes over. -/
def stripZeros : Nat → Nat → Int → DecimalDigits
  | 0, n, k => ⟨n, k⟩
  | fuel + 1, n, k => if n ≠ 0 && n % 10 = 0 then stripZeros fuel (n / 10) (k + 1) else ⟨n, k⟩

/-- Largest exponent `e` with `10^e` no larger than the quotient, sought downwards from
`start`. -/
def logTenFrom (num den : Nat) : Nat → Int → Int
  | 0, e => e
  | fuel + 1, e =>
    let fits : Bool := if 0 ≤ e then den * 10 ^ e.toNat ≤ num else den ≤ num * 10 ^ (-e).toNat
    if fits then e else logTenFrom num den fuel (e - 1)

/-- The two grid points next to a double on the grid of `10^k`, the nearer first. -/
def gridNeighbours (num den : Nat) (k : Int) : List Nat :=
  let (n, d) := if 0 ≤ k then (num, den * 10 ^ k.toNat) else (num * 10 ^ (-k).toNat, den)
  let below := n / d
  let rest := n % d
  if 2 * rest < d then [below, below + 1]
  else if 2 * rest = d && below % 2 = 0 then [below, below + 1]
  else [below + 1, below]

/-- Fewest digits that read back, sought on finer and finer grids. -/
def shortestFrom (i : RoundingInterval) (unitNum unitDen num den : Nat) (top : Int) :
    Nat → Nat → DecimalDigits
  | 0, count => ⟨((gridNeighbours num den (top - count)).headD 0), top - count⟩
  | fuel + 1, count =>
    let k := top - count
    match (gridNeighbours num den k).find? fun d => i.holds unitNum unitDen d k with
    | some d => ⟨d, k⟩
    | none => shortestFrom i unitNum unitDen num den top fuel (count + 1)

/-- Shortest digits of the positive double `m · 2^q`. -/
def shortestDigits (m : Nat) (q : Int) : DecimalDigits :=
  let num := if 0 ≤ q then m * 2 ^ q.toNat else m
  let den := if 0 ≤ q then 1 else 2 ^ (-q).toNat
  -- the interval counts quarters of the unit 2^q
  let unitNum := if 0 ≤ q then 2 ^ q.toNat else 1
  let unitDen := if 0 ≤ q then 4 else 4 * 2 ^ (-q).toNat
  let guess : Int := (Binary64.logTwo num den) * 30103 / 100000 + 2
  let top := logTenFrom num den 6 guess
  let found := shortestFrom (roundingInterval m q) unitNum unitDen num den top 17 0
  stripZeros 400 found.digits found.exponent

/-! ## 2. Text -/

/-- Decisions of a float format: the decimal exponents that are written positionally,
from `lowest` up to but not including `beyond`, and the least count of exponent digits. -/
structure FloatFormat where
  lowest : Int
  beyond : Int
  exponentDigits : Nat

/-- Doubles are positional from 10^-4 up to 10^16, and an exponent has two digits or more. -/
def FloatFormat.standard : FloatFormat := ⟨-4, 16, 2⟩

/-- Zeros in a row. -/
def zeros (n : Nat) : String := String.ofList (List.replicate n '0')

/-- Exponent with its sign and at least `width` digits. -/
def exponentText (width : Nat) (e : Int) : String :=
  let ds := toString e.natAbs
  (if e < 0 then "-" else "+") ++ zeros (width - ds.length) ++ ds

/-- Text of positive decimal digits. A positional text always has a fraction. -/
def FloatFormat.digitsText (f : FloatFormat) (d : DecimalDigits) : String :=
  let ds := toString d.digits
  let n := ds.length
  -- decimal exponent of the first digit
  let e : Int := d.exponent + n - 1
  if f.lowest ≤ e && e < f.beyond then
    if e < 0 then "0." ++ zeros ((-e).toNat - 1) ++ ds
    else if 0 ≤ d.exponent then ds ++ zeros d.exponent.toNat ++ ".0"
    else
      let whole := e.toNat + 1
      String.ofList (ds.toList.take whole) ++ "." ++ String.ofList (ds.toList.drop whole)
  else
    let first := String.ofList (ds.toList.take 1)
    let rest := String.ofList (ds.toList.drop 1)
    (if rest = "" then first else first ++ "." ++ rest) ++ "e" ++ exponentText f.exponentDigits e

/-- Text of a double. -/
def Binary64.text : Binary64 → String
  | .nan => "nan"
  | .infinite negative => if negative then "-inf" else "inf"
  | .finite negative m q =>
    (if negative then "-" else "") ++
      (if m = 0 then "0.0" else FloatFormat.standard.digitsText (shortestDigits m q))

end ClientGen.Number
