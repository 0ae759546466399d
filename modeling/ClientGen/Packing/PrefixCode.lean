import ClientGen.Packing.Bits

/-!
# Prefix codes

A prefix code gives each symbol a row of bits, none of which begins with another. The lengths
of the rows are enough to know them: shorter rows come first, and rows of one length follow
each other in the order of their symbols. This file fixes

* codes of given lengths, and which lengths make none;
* how a symbol is taken.
-/
namespace ClientGen.Packing

/-- Longest row of a code. -/
def maxRowLength : Nat := 15

/-- A prefix code: how many rows there are of each length, from one on, and the symbols in
the order of their rows. -/
structure PrefixCode where
  counts : List Nat
  symbols : Array Nat
  deriving DecidableEq, Repr

namespace PrefixCode

/-- Rows that are left free by codes with so many rows of each length, counted in the
longest ones; none if there are too many. -/
def freeRows? (free : Nat) : List Nat → Option Nat
  | [] => some free
  | count :: counts => if 2 * free < count then none else freeRows? (2 * free - count) counts

/-- Code of the lengths of rows; a symbol of length zero has none. All rows must be taken,
but a code without any is one too, and where `mayBeSingle` says so one with a single row of
one bit. -/
def ofLengths? (mayBeSingle : Bool) (lengths : List Nat) : Option PrefixCode :=
  let all := (List.range maxRowLength).map fun i => lengths.count (i + 1)
  let counts := (all.reverse.dropWhile (· = 0)).reverse
  let symbols := (List.range maxRowLength).flatMap fun i =>
    (lengths.zipIdx.filter fun l => l.1 = i + 1).map Prod.snd
  let code : PrefixCode := ⟨if counts = [] then [0] else counts, symbols.toArray⟩
  match freeRows? 1 all with
  | none => none
  | some free =>
    if free = 0 || counts = [] || (mayBeSingle && counts.length = 1) then some code else none

/-- Takes the rest of a row; `row` is what was taken of it, `first` the first row of its
length, and `index` the number of its symbol. -/
def takeRow (symbols : Array Nat) (row first index : Nat) : List Nat → Unpack (Option Nat)
  | [] => return none
  | count :: counts => do
    let row := 2 * row + (← takeBit)
    if row < first + count then return symbols[index + (row - first)]?
    else takeRow symbols row (2 * (first + count)) (index + count) counts

/-- Takes a symbol; nothing if the bits begin no row. -/
def take (c : PrefixCode) : Unpack (Option Nat) := takeRow c.symbols 0 0 0 c.counts

end PrefixCode

end ClientGen.Packing
