import ClientGen.Text.Quoted

/-!
# Encodings of documents

A document that arrives as bytes does not say how they write characters; its first bytes
tell. Documents begin with characters that take one byte, so zero bytes among the first
four show how wide a unit is and which of its bytes comes first. This file fixes

* the encodings and which one some bytes are in;
* decoding, with the place and cause of what cannot be decoded.
-/
namespace ClientGen.Json

open ClientGen.Text

/-! ## 1. Encodings -/

/-- How characters are written: in units of one byte, two or four; the wider ones with the
more significant byte first or last. -/
inductive Encoding where
  | bytes
  | pairs (bigFirst : Bool)
  | quads (bigFirst : Bool)
  deriving DecidableEq, Repr

/-- Name of an encoding. -/
def Encoding.name : Encoding → String
  | .bytes => "utf-8"
  | .pairs bigFirst => if bigFirst then "utf-16-be" else "utf-16-le"
  | .quads bigFirst => if bigFirst then "utf-32-be" else "utf-32-le"

/-- Encoding that a mark at the start of a document tells, and how many bytes the mark has. -/
def Encoding.ofMark? : List Nat → Option (Encoding × Nat)
  | 0 :: 0 :: 0xFE :: 0xFF :: _ => some (.quads true, 4)
  | 0xFF :: 0xFE :: 0 :: 0 :: _ => some (.quads false, 4)
  | 0xFE :: 0xFF :: _ => some (.pairs true, 2)
  | 0xFF :: 0xFE :: _ => some (.pairs false, 2)
  | 0xEF :: 0xBB :: 0xBF :: _ => some (.bytes, 3)
  | _ => none

/-- Encoding of a document, by the zeros among its first bytes. A document of three bytes is
in units of one. -/
def Encoding.of : List Nat → Encoding
  | 0 :: b :: _ :: _ :: _ => if b = 0 then .quads true else .pairs true
  | _ :: 0 :: c :: d :: _ => if c = 0 && d = 0 then .quads false else .pairs false
  | [0, _] => .pairs true
  | [_, 0] => .pairs false
  | _ => .bytes

/-! ## 2. Decoding -/

/-- Why bytes cannot be decoded. -/
inductive DecodingCause where
  | truncated
  | outOfRange
  | badStart
  | badContinuation
  | dataEnds
  deriving DecidableEq, Repr

/-- Bytes that cannot be decoded: which, and from which position. -/
structure DecodingFault where
  encoding : Encoding
  cause : DecodingCause
  position : Nat
  bytes : List Nat
  deriving DecidableEq, Repr

/-- Wording of a fault. -/
def DecodingFault.message (f : DecodingFault) : String :=
  let where_ := match f.bytes with
    | [b] => "byte 0x" ++ String.ofList (hexDigits 2 b) ++ " in position " ++ toString f.position
    | bs => "bytes in position " ++ toString f.position ++ "-"
        ++ toString (f.position + bs.length - 1)
  let why := match f.cause with
    | .truncated => "truncated data"
    | .outOfRange => "code point not in range(0x110000)"
    | .badStart => "invalid start byte"
    | .badContinuation => "invalid continuation byte"
    | .dataEnds => "unexpected end of data"
  "'" ++ f.encoding.name ++ "' codec can't decode " ++ where_ ++ ": " ++ why

/-- Characters of the numbers read: two halves of a pair in a row make one character. -/
def joinHalves : List Nat → List Char
  | m :: n :: rest =>
    if isFirstHalf m && isSecondHalf n then charOf (pairNumber m n) :: joinHalves rest
    else charOf m :: joinHalves (n :: rest)
  | [m] => [charOf m]
  | [] => []

/-- Tells whether a byte goes on with a character. -/
def isContinuation (b : Nat) : Bool := 0x80 ≤ b && b ≤ 0xBF

/-- Number that bytes begin with, and how many of them write it; or how many are at fault. A
number is written in as few bytes as it can be. Halves of pairs are let pass. -/
def numberOfBytes (bs : List Nat) : Except (DecodingCause × Nat) (Nat × Nat) :=
  let number (start : Nat) (more : List Nat) : Nat := more.foldl (fun n b => 64 * n + (b - 0x80)) start
  match bs with
  | [] => .error (.dataEnds, 0)
  | b :: more =>
    if b < 0x80 then .ok (b, 1)
    else if b < 0xC2 || 0xF4 < b then .error (.badStart, 1)
    else
      let width := if b < 0xE0 then 1 else if b < 0xF0 then 2 else 3
      let least := if b = 0xE0 then 0xA0 else if b = 0xF0 then 0x90 else 0x80
      let most := if b = 0xF4 then 0x8F else 0xBF
      match more with
      | [] => .error (.dataEnds, 1)
      | first :: _ =>
        let good := ((more.take width).takeWhile isContinuation).length
        let isHalf := b = 0xED && 0xA0 ≤ first
        if first < least || most < first || (isHalf && good < 2) then .error (.badContinuation, 1)
        else if good < width then
          .error (if more.length ≤ good then (.dataEnds, good + 1) else (.badContinuation, good + 1))
        else
          let ownBits := if width = 1 then 32 else if width = 2 then 16 else 8
          .ok (number (b % ownBits) (more.take width), width + 1)

/-- Numbers that bytes write, each in one to four of them; `steps` bounds how many. -/
def numbersOfBytes (position : Nat) : Nat → List Nat → Except DecodingFault (List Nat)
  | 0, _ | _, [] => .ok []
  | steps + 1, bs =>
    match numberOfBytes bs with
    | .ok (n, width) => do return n :: (← numbersOfBytes (position + width) steps (bs.drop width))
    | .error (cause, width) => .error ⟨.bytes, cause, position, bs.take width⟩

/-- Number that the bytes of a unit write. -/
def unitValue (bigFirst : Bool) (bs : List Nat) : Nat :=
  (if bigFirst then bs else bs.reverse).foldl (fun n b => 256 * n + b) 0

/-- Units of two bytes. -/
def pairUnits (bigFirst : Bool) (position : Nat) : List Nat → Except DecodingFault (List Nat)
  | a :: b :: rest => do
    return unitValue bigFirst [a, b] :: (← pairUnits bigFirst (position + 2) rest)
  | [] => .ok []
  | left => .error ⟨.pairs bigFirst, .truncated, position, left⟩

/-- Units of four bytes, which write one character each. -/
def quadUnits (bigFirst : Bool) (position : Nat) : List Nat → Except DecodingFault (List Nat)
  | a :: b :: c :: d :: rest => do
    let n := unitValue bigFirst [a, b, c, d]
    if 0x110000 ≤ n then throw ⟨.quads bigFirst, .outOfRange, position, [a, b, c, d]⟩
    return n :: (← quadUnits bigFirst (position + 4) rest)
  | [] => .ok []
  | left => .error ⟨.quads bigFirst, .truncated, position, left⟩

/-- Text of a document in bytes, in the encoding that its bytes tell; a mark at its start is
left out. Positions count from the mark, or behind it where units have one byte. -/
def decode (bs : List Nat) : Except DecodingFault String := do
  let (encoding, mark) := (Encoding.ofMark? bs).getD (Encoding.of bs, 0)
  let rest := bs.drop mark
  match encoding with
  | .bytes => return String.ofList ((← numbersOfBytes 0 rest.length rest).map charOf)
  | .pairs bigFirst => return String.ofList (joinHalves (← pairUnits bigFirst mark rest))
  | .quads bigFirst => return String.ofList ((← quadUnits bigFirst mark rest).map charOf)

end ClientGen.Json
