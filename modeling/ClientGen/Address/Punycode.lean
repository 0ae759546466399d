import ClientGen.Text.Split

/-!
# Names in ASCII

A row of code points can be written with letters, digits and hyphens alone: first those of
ASCII as they are, then, behind a hyphen, the others in the order of their code points. Each
of these is a number: how many steps of inserting lie between it and the one before. A
number is a row of digits to the base 36, the least first, that ends itself: a digit below
the threshold of its place is the last. The thresholds follow the size of the numbers met.
-/
namespace ClientGen.Address.Punycode

/-! ## 1. Numbers -/

/-- Digit below 36: letters, then digits. -/
def digitChar (d : Nat) : Char := if d < 26 then Char.ofNat (97 + d) else Char.ofNat (22 + d)

/-- Value of a digit; letters of either case count. -/
def digitValue? (c : Char) : Option Nat :=
  if 'a' ≤ c && c ≤ 'z' then some (c.toNat - 97)
  else if 'A' ≤ c && c ≤ 'Z' then some (c.toNat - 65)
  else if '0' ≤ c && c ≤ '9' then some (c.toNat - 22)
  else none

/-- Threshold of a place, which is a multiple of 36. -/
def threshold (place bias : Nat) : Nat := max 1 (min 26 (place - bias))

/-- A threshold lies between one and 26. -/
theorem threshold_bounds (place bias : Nat) :
    1 ≤ threshold place bias ∧ threshold place bias ≤ 26 := by
  unfold threshold
  omega

/-- Number made small by divisions, and 36 for each of them. -/
def scaleDown (delta scale : Nat) : Nat × Nat :=
  if 455 < delta then scaleDown (delta / 35) (scale + 36) else (delta, scale)
termination_by delta
decreasing_by exact Nat.div_lt_self (by omega) (by omega)

/-- Bias after a number that made a row of some length. -/
def adapt (delta : Nat) (isFirst : Bool) (length : Nat) : Nat :=
  let delta := if isFirst then delta / 700 else delta / 2
  let (delta, scale) := scaleDown (delta + delta / length) 0
  scale + 36 * delta / (delta + 38)

/-- Digits of a number from a place on. -/
def digitsFrom (place bias n : Nat) : List Char :=
  let t := threshold place bias
  if n < t then [digitChar n]
  else digitChar (t + (n - t) % (36 - t)) :: digitsFrom (place + 36) bias ((n - t) / (36 - t))
termination_by n
decreasing_by
  have h := threshold_bounds place bias
  have hd := Nat.div_le_self (n - threshold place bias) (36 - threshold place bias)
  omega

/-- Number at the front of a row of digits, and the digits after it. -/
def takeNumber (place bias weight sum : Nat) : List Char → Option (Nat × List Char)
  | [] => none
  | c :: cs => do
    let d ← digitValue? c
    let t := threshold place bias
    if d < t then return (sum + d * weight, cs)
    else takeNumber (place + 36) bias (weight * (36 - t)) (sum + d * weight) cs

/-- A number takes at least one digit. -/
theorem length_takeNumber {place bias weight sum : Nat} {cs : List Char} {r : Nat × List Char}
    (h : takeNumber place bias weight sum cs = some r) : r.2.length < cs.length := by
  induction cs generalizing place weight sum with
  | nil => simp [takeNumber] at h
  | cons c cs ih =>
    unfold takeNumber at h
    cases hd : digitValue? c with
    | none => simp [hd] at h
    | some d =>
      simp only [hd, Option.bind_eq_bind, Option.bind_some] at h
      split at h
      · simp only [Option.pure_def, Option.some.injEq] at h
        subst h
        simp
      · exact Nat.lt_succ_of_lt (ih h)

/-! ## 2. Writing -/

/-- State of writing: the digits so far, how many code points are written, the steps since
the last one, and the bias. -/
structure Writing where
  digits : List Char := []
  count : Nat
  delta : Nat := 0
  bias : Nat := 72

/-- One pass over the row for the code point `n`: smaller ones are steps, and `n` itself is
written; `ascii` is how many are in ASCII. -/
def writePass (ascii n : Nat) (s : Writing) (m : Nat) : Writing :=
  if m < n then { s with delta := s.delta + 1 }
  else if m = n then
    { digits := s.digits ++ digitsFrom 36 s.bias s.delta, count := s.count + 1, delta := 0
      bias := adapt s.delta (s.count = ascii) (s.count + 1) }
  else s

/-- Passes for code points in rising order; `last` is the one after the last pass. -/
def writePasses (row : List Nat) (ascii last : Nat) (s : Writing) : List Nat → Writing
  | [] => s
  | n :: ns =>
    let s := row.foldl (writePass ascii n) { s with delta := s.delta + (n - last) * (s.count + 1) }
    writePasses row ascii (n + 1) { s with delta := s.delta + 1 } ns

/-- Number put into a rising row without repetition. -/
def insertRising (n : Nat) : List Nat → List Nat
  | [] => [n]
  | m :: ms => if n < m then n :: m :: ms else if n = m then m :: ms else m :: insertRising n ms

/-- Row of code points in ASCII. -/
def encode (row : List Nat) : List Char :=
  let ascii := row.filter (· < 0x80)
  let others := (row.filter (0x80 ≤ ·)).foldr insertRising []
  ascii.map Char.ofNat ++ (if ascii.isEmpty then [] else ['-'])
    ++ (writePasses row ascii.length 0x80 { count := ascii.length } others).digits

/-! ## 3. Reading -/

/-- Row after all numbers of a row of digits: each says how many steps lie between the last
insertion, before `place` and of `last`, and the next. -/
def insertAll (bias last place : Nat) (isFirst : Bool) (row : List Nat) (cs : List Char) :
    Option (List Nat) :=
  if cs = [] then some row
  else
    match _taken : takeNumber 36 bias 1 0 cs with
    | none => none
    | some (delta, rest) =>
      let steps := place + delta
      let n := last + steps / (row.length + 1)
      let place := steps % (row.length + 1)
      if 0x10FFFF < n then none
      else insertAll (adapt delta isFirst (row.length + 1)) n (place + 1) false
        (row.take place ++ n :: row.drop place) rest
termination_by cs.length
decreasing_by exact length_takeNumber _taken

/-- Row of code points written in ASCII. -/
def decode? (cs : List Char) : Option (List Nat) :=
  let digits := (cs.reverse.takeWhile (· ≠ '-')).reverse
  let ascii := cs.take (cs.length - digits.length - 1)
  insertAll 72 0x80 0 true (ascii.map Char.toNat) digits

end ClientGen.Address.Punycode
