import ClientGen.Packing.PrefixCode

/-!
# Blocks of packed bytes

Packed bytes are blocks, of which the last one is marked. A block holds bytes as they are, or
symbols: a byte, the end of the block, or a length, behind which a distance tells where the
same bytes were written before. The codes of the symbols are fixed or stand in front of the
block. This file fixes

* the meaning of symbols;
* codes that stand in front of a block;
* blocks.
-/
namespace ClientGen.Packing

-- A power is a repeated product.
attribute [local instance (high)] instPowNat

/-! ## 1. Symbols -/

/-- Rows of numbers from a first one on: for each number of bits how many rows have it. Each
row holds as many numbers as its bits can count. -/
def numberRows (first : Nat) : List (Nat × Nat) → List (Nat × Nat)
  | [] => []
  | (bits, rows) :: rest =>
    (List.range rows).map (fun i => (first + i * 2 ^ bits, bits))
      ++ numberRows (first + rows * 2 ^ bits) rest

/-- Lengths: the first one of a symbol, and how many bits are added to it. The longest has a
symbol of its own. -/
def lengthRows : List (Nat × Nat) :=
  numberRows 3 [(0, 8), (1, 4), (2, 4), (3, 4), (4, 4), (5, 4)] ++ [(258, 0)]

/-- Distances: the first one of a symbol, and how many bits are added to it. -/
def distanceRows : List (Nat × Nat) :=
  numberRows 1 ((0, 4) :: (List.range 13).map fun i => (i + 1, 2))

/-- Codes of a block: of bytes, its end and lengths; and of distances. -/
structure BlockCodes where
  literals : PrefixCode
  distances : PrefixCode

/-- Symbol that ends a block. -/
def endOfBlock : Nat := 256

/-- Unpacks the symbols of a block. Each takes a bit at least, so as many steps as there are
bits suffice. -/
def unpackSymbols (codes : BlockCodes) : Nat → Unpack Unit
  | 0 => throw .inputEnds
  | steps + 1 => do
    let some symbol ← codes.literals.take | stopAt .unknownLiteral
    if symbol = endOfBlock then return ()
    if symbol < endOfBlock then writeByte symbol
    else
      let some (first, bits) := lengthRows[symbol - endOfBlock - 1]? | stopAt .unknownLiteral
      let count := first + (← takeNumber bits)
      let some symbol ← codes.distances.take | stopAt .unknownDistance
      let some (first, bits) := distanceRows[symbol]? | stopAt .unknownDistance
      let back := first + (← takeNumber bits)
      if (← get).written.size < back then stopAt .tooFarBack
      writeAgain back count
    unpackSymbols codes steps

/-! ## 2. Codes -/

/-- Codes of blocks that have none in front. -/
def fixedCodes : Option BlockCodes := do
  let lengths := List.replicate 144 8 ++ List.replicate 112 9 ++ List.replicate 24 7
    ++ List.replicate 8 8
  return ⟨← PrefixCode.ofLengths? false lengths, ← PrefixCode.ofLengths? false (List.replicate 32 5)⟩

/-- Order in which the lengths of the code of lengths are written. -/
def lengthOrder : List Nat := [16, 17, 18, 0, 8, 7, 9, 6, 10, 5, 11, 4, 12, 3, 13, 2, 14, 1, 15]

/-- Takes lengths until there are `total` of them; those taken are in reverse. Three symbols
repeat: the last length, or none, for as often as some bits tell. -/
def takeLengths (code : PrefixCode) (total : Nat) : Nat → List Nat → Unpack (List Nat)
  | 0, _ => throw .inputEnds
  | steps + 1, taken => do
    if total ≤ taken.length then return taken.reverse
    let symbol := (← code.take).getD 0
    let (length, count) ←
      if symbol = 16 then
        let extra ← takeNumber 2
        let some last := taken.head? | stopAt .lengthRepeat
        pure (last, 3 + extra)
      else if symbol = 17 then pure (0, 3 + (← takeNumber 3))
      else if symbol = 18 then pure (0, 11 + (← takeNumber 7))
      else pure (symbol, 1)
    if total < taken.length + count then stopAt .lengthRepeat
    takeLengths code total steps (List.replicate count length ++ taken)

/-- Takes the codes in front of a block. -/
def takeCodes : Unpack BlockCodes := do
  let literals := 257 + (← takeNumber 5)
  let distances := 1 + (← takeNumber 5)
  let lengths := 4 + (← takeNumber 4)
  if 286 < literals || 30 < distances then stopAt .tooManySymbols
  let written ← (lengthOrder.take lengths).mapM fun place => return (place, ← takeNumber 3)
  let some code := PrefixCode.ofLengths? false
    ((List.range 19).map fun i => (written.lookup i).getD 0) | stopAt .lengthCode
  let all ← takeLengths code (literals + distances) (literals + distances + 1) []
  if all[endOfBlock]?.getD 0 = 0 then stopAt .noBlockEnd
  let some literalCode := PrefixCode.ofLengths? true (all.take literals) | stopAt .literalCode
  let some distanceCode := PrefixCode.ofLengths? true (all.drop literals) | stopAt .distanceCode
  return ⟨literalCode, distanceCode⟩

/-! ## 3. Blocks -/

/-- Unpacks a block of bytes as they are: their number is written twice, the second time with
all bits turned. -/
def unpackPlain : Unpack Unit := do
  leaveByte
  let count ← takeNumber 16
  let turned ← takeNumber 16
  if count + turned ≠ 0xFFFF then stopAt .plainLength
  moveBytes count

/-- Unpacks blocks up to the last one. Each takes three bits at least. -/
def unpackBlocks : Nat → Unpack Unit
  | 0 => throw .inputEnds
  | steps + 1 => do
    let isLast ← takeBit
    let kind ← takeNumber 2
    let left := (← get).bitsLeft
    match kind, fixedCodes with
    | 0, _ => unpackPlain
    | 1, some codes => unpackSymbols codes (left + 1)
    | 2, _ => unpackSymbols (← takeCodes) (left + 1)
    | _, _ => stopAt .blockKind
    if isLast = 0 then unpackBlocks steps

end ClientGen.Packing
