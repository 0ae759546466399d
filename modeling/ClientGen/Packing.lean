import ClientGen.Packing.Blocks

/-!
# Packed bytes

Packed bytes are blocks, which may stand between a header and a sum of what they hold. This
file fixes

* bytes that blocks hold, with a header or without one;
* the kinds of packing, and bytes that are packed in several of them.
-/
namespace ClientGen.Packing

/-! ## 1. Blocks and headers -/

/-- Bytes that unpacking writes, unless it meets a fault. -/
def writtenBy (x : Unpack Unit) (bytes : List Nat) : Except PackingFault (List Nat) :=
  match EStateM.run x { bytes } with
  | .ok _ s => .ok s.written.toList
  | .error .inputEnds s => .ok s.written.toList
  | .error (.fault f) _ => .error f

/-- Unpacks blocks to their end. -/
def unpackAll : Unpack Unit := do unpackBlocks (← get).bitsLeft

/-- Bytes of blocks without a header. -/
def ofBlocks (bytes : List Nat) : Except PackingFault (List Nat) := writtenBy unpackAll bytes

/-- Sum of bytes: the sum of all of them and one, and the sum of the sums up to each. -/
def sumOf (bytes : Array Nat) : Nat :=
  let (a, b) := bytes.foldl (fun (a, b) n => ((a + n) % 65521, (b + (a + n)) % 65521)) (1, 0)
  65536 * b + a

/-- Compares the sum behind blocks with that of the bytes written, if it is there. -/
def checkSum : Unpack Unit := do
  leaveByte
  let s ← get
  if 4 ≤ s.bytes.length && (s.bytes.take 4).foldl (fun n b => 256 * n + b) 0 ≠ sumOf s.written then
    stopAt .header

/-- Bytes of blocks behind a header of two bytes. These are a multiple of 31 together and give
the kind and how far distances reach; bytes that are known beforehand are not. -/
def withHeader? (bytes : List Nat) : Option (List Nat) :=
  match bytes with
  | a :: b :: rest =>
    if (256 * a + b) % 31 ≠ 0 || a % 16 ≠ 8 || 7 < a / 16 then none
    else if b.testBit 5 then (if rest.length < 4 then some [] else none)
    else (writtenBy (do unpackAll; checkSum) rest).toOption
  | _ => some []

/-! ## 2. Kinds of packing -/

/-- Kind of packing: blocks, behind a short header or none, or behind the long header that files
have. -/
inductive Kind where
  | short
  | long
  deriving DecidableEq, Repr

/-- Kinds by their names. -/
def Kind.ofName? (name : String) : Option Kind :=
  if name = "deflate" then some .short else if name = "gzip" then some .long else none

/-- Bytes that are packed in one kind. Where there is no short header there may be blocks. No
text begins with the two bytes of a long header, so that is never there. -/
def unpack (kind : Kind) (bytes : List Nat) : Except PackingFault (List Nat) :=
  match kind with
  | .short =>
    match withHeader? bytes with
    | some unpacked => .ok unpacked
    | none => ofBlocks bytes
  | .long => if 1 < bytes.length then .error .header else .ok []

/-- Bytes that are packed in several kinds, the last of which is on the outside. -/
def unpackKinds (kinds : List Kind) (bytes : List Nat) : Except PackingFault (List Nat) :=
  kinds.reverse.foldlM (fun bytes kind => unpack kind bytes) bytes

end ClientGen.Packing
