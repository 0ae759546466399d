/-!
# Binary floating-point numbers

Double precision numbers as exact data: a sign, a significand below 2^53 and an exponent
of two no smaller than -1074. A decimal fraction becomes the nearest such number, an
exact half going to the even significand. All arithmetic is on natural numbers.
-/
namespace ClientGen.Number

-- A power is a repeated product.
attribute [local instance (high)] instPowNat

/-- A double: the finite ones stand for `significand · 2^exponent`. -/
inductive Binary64 where
  | nan
  | infinite (negative : Bool)
  | finite (negative : Bool) (significand : Nat) (exponent : Int)
  deriving DecidableEq, Repr

namespace Binary64

/-- Zero of either sign. -/
def zero (negative : Bool) : Binary64 := .finite negative 0 (-1074)

/-- Nearest natural number to a quotient, a half going to the even one. -/
def roundDiv (num den : Nat) : Nat :=
  let q := num / den
  let r := num % den
  if 2 * r < den then q
  else if den < 2 * r then q + 1
  else if q % 2 = 0 then q else q + 1

/-- Largest power of two that is no larger than a positive quotient, as an exponent. -/
def logTwo (num den : Nat) : Int :=
  let k : Int := (num.log2 : Int) - (den.log2 : Int)
  let fits : Bool :=
    if 0 ≤ k then den * 2 ^ k.toNat ≤ num else den ≤ num * 2 ^ (-k).toNat
  if fits then k else k - 1

/-- Nearest double to a positive quotient. -/
def ofQuotient (negative : Bool) (num den : Nat) : Binary64 :=
  let q : Int := max (logTwo num den - 52) (-1074)
  let m := if 0 ≤ q then roundDiv num (den * 2 ^ q.toNat) else roundDiv (num * 2 ^ (-q).toNat) den
  let (m, q) := if m = 2 ^ (53 : Nat) then (2 ^ (52 : Nat), q + 1) else (m, q)
  if 971 < q then .infinite negative else .finite negative m q

/-- Nearest double to `digits · 10^exponent`; far outside the range the answer is known
without computing the power. -/
def ofDecimal (negative : Bool) (digits : Nat) (exponent : Int) : Binary64 :=
  if digits = 0 then zero negative
  else
    let top : Int := (toString digits).length + exponent
    if 310 < top then .infinite negative
    else if top < -330 then zero negative
    else if 0 ≤ exponent then ofQuotient negative (digits * 10 ^ exponent.toNat) 1
    else ofQuotient negative digits (10 ^ (-exponent).toNat)

/-- Double of an integer. -/
def ofInt (n : Int) : Binary64 :=
  if n = 0 then zero false else ofQuotient (n < 0) n.natAbs 1

/-- Nearest double to `significand · 2^exponent`. -/
def ofScaled (negative : Bool) (significand : Nat) (exponent : Int) : Binary64 :=
  if significand = 0 then zero negative
  else if 0 ≤ exponent then ofQuotient negative (significand * 2 ^ exponent.toNat) 1
  else ofQuotient negative significand (2 ^ (-exponent).toNat)

/-- Product of two doubles, where both are finite. -/
def times? : Binary64 → Binary64 → Option Binary64
  | .finite a m p, .finite b n q => some (ofScaled (a != b) (m * n) (p + q))
  | _, _ => none

/-- Integer that is left of a finite double without its fraction. -/
def truncate? : Binary64 → Option Int
  | .finite negative m q =>
    let n : Nat := if 0 ≤ q then m * 2 ^ q.toNat else m / 2 ^ (-q).toNat
    some (if negative then -(n : Int) else n)
  | _ => none

/-- Integer that a finite double without a fraction stands for. -/
def toInt? : Binary64 → Option Int
  | .finite negative m q =>
    if 0 ≤ q then some ((if negative then -1 else 1) * (m * 2 ^ q.toNat : Nat))
    else if m % 2 ^ (-q).toNat = 0 then
      some ((if negative then -1 else 1) * (m / 2 ^ (-q).toNat : Nat))
    else none
  | _ => none

/-- Tells whether a double is zero, of either sign. -/
def isZero : Binary64 → Bool
  | .finite _ 0 _ => true
  | _ => false

end Binary64

end ClientGen.Number
