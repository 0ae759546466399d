/-!
# Bits of packed bytes

Packed bytes are read bit by bit, from the lowest bit of a byte to the highest, and write
bytes as they are read. They may end anywhere: what was written up to there stays. This file
fixes

* what can be wrong with packed bytes;
* the state of unpacking, and how bits, numbers and whole bytes are taken.
-/
namespace ClientGen.Packing

/-! ## 1. What can be wrong -/

/-- Why bytes are not packed ones. -/
inductive PackingFault where
  | header
  | blockKind
  | plainLength
  | tooManySymbols
  | lengthCode
  | lengthRepeat
  | noBlockEnd
  | literalCode
  | distanceCode
  | unknownLiteral
  | unknownDistance
  | tooFarBack
  deriving DecidableEq, Repr

/-- Wording of a fault. -/
def PackingFault.message (f : PackingFault) : String :=
  "Error -3 while decompressing data: " ++
    match f with
    | .header => "incorrect header check"
    | .blockKind => "invalid block type"
    | .plainLength => "invalid stored block lengths"
    | .tooManySymbols => "too many length or distance symbols"
    | .lengthCode => "invalid code lengths set"
    | .lengthRepeat => "invalid bit length repeat"
    | .noBlockEnd => "invalid code -- missing end-of-block"
    | .literalCode => "invalid literal/lengths set"
    | .distanceCode => "invalid distances set"
    | .unknownLiteral => "invalid literal/length code"
    | .unknownDistance => "invalid distance code"
    | .tooFarBack => "invalid distance too far back"

/-! ## 2. Unpacking -/

/-- State of unpacking: the bits left of the byte begun, the bytes behind it, and the bytes
written. -/
structure Unpacking where
  begun : List Bool := []
  bytes : List Nat
  written : Array Nat := #[]

/-- Why unpacking stops before its end. -/
inductive Stop where
  | inputEnds
  | fault (f : PackingFault)

/-- Steps of unpacking; what is written before a stop is kept. -/
abbrev Unpack := EStateM Stop Unpacking

/-- Bits of a byte, the lowest first. -/
def bitsOfByte (n : Nat) : List Bool := (List.range 8).map n.testBit

/-- Number of bits that are left. -/
def Unpacking.bitsLeft (s : Unpacking) : Nat := s.begun.length + 8 * s.bytes.length

/-- Stops at a fault. -/
def stopAt (f : PackingFault) : Unpack α := throw (.fault f)

/-- Takes a bit. -/
def takeBit : Unpack Nat := do
  let s ← get
  match s.begun, s.bytes with
  | b :: begun, _ =>
    set { s with begun }
    return b.toNat
  | [], n :: bytes =>
    set { s with begun := (bitsOfByte n).drop 1, bytes }
    return n % 2
  | [], [] => throw .inputEnds

/-- Takes a number of some bits, the lowest first. -/
def takeNumber : Nat → Unpack Nat
  | 0 => return 0
  | bits + 1 => do
    let low ← takeBit
    return low + 2 * (← takeNumber bits)

/-- Leaves the rest of the byte begun. -/
def leaveByte : Unpack Unit := modify ({ · with begun := [] })

/-- Writes a byte. -/
def writeByte (n : Nat) : Unpack Unit := modify fun s => { s with written := s.written.push n }

/-- Moves whole bytes to what is written, as many as are asked for and there. -/
def moveBytes (count : Nat) : Unpack Unit := do
  let s ← get
  set { s with bytes := s.bytes.drop count, written := s.written ++ (s.bytes.take count).toArray }
  if s.bytes.length < count then throw .inputEnds

/-- Writes again some bytes that were written before; `back` tells how far. -/
def writeAgain (back : Nat) : Nat → Unpack Unit
  | 0 => return ()
  | count + 1 => do
    let s ← get
    match s.written[s.written.size - back]? with
    | some n => writeByte n
    | none => stopAt .tooFarBack
    writeAgain back count

end ClientGen.Packing
