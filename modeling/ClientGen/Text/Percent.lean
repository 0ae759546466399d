import ClientGen.Text.Quoted

/-!
# Percent escapes

An escape of a percent sign and two hexadecimal digits stands for a byte, and bytes write
characters: one byte for an ASCII character, up to four for others. This file fixes

* writing: characters that may not stand as themselves become escapes of their bytes;
* bytes read as text: those that write no character are replaced, each row of them that
  begins one by a single replacement character;
* reading escapes.
-/
namespace ClientGen.Text

/-! ## 1. Writing -/

/-- Capital hexadecimal digit below sixteen. -/
def capitalHexChar (n : Nat) : Char :=
  if n % 16 < 10 then Char.ofNat (48 + n % 16) else Char.ofNat (55 + n % 16)

/-- Escape of a byte. -/
def percentByte (n : Nat) : List Char := ['%', capitalHexChar (n / 16), capitalHexChar n]

/-- Bytes of a character. -/
def bytesOf (c : Char) : List Nat := c.toString.toUTF8.toList.map UInt8.toNat

/-- Text in which only the characters with `keep` stand as themselves. -/
def escapePercent (keep : Char → Bool) (s : String) : String :=
  String.ofList (s.toList.flatMap fun c => if keep c then [c] else (bytesOf c).flatMap percentByte)

/-! ## 2. Bytes as text -/

/-- What is left of a character that bytes have begun to write: how many more are needed,
the number so far, and the bounds of the next byte. -/
structure BegunChar where
  missing : Nat := 0
  number : Nat := 0
  low : Nat := 0x80
  high : Nat := 0xBF

/-- The replacement character. -/
def replacement : Char := Char.ofNat 0xFFFD

/-- Character that a byte writes, or what it begins. Not every number of a width is written
in that width, hence the bounds of the byte after some of the first ones. -/
def beginChar (b : Nat) : List Char × BegunChar :=
  if b < 0x80 then ([Char.ofNat b], {})
  else if 0xC2 ≤ b && b ≤ 0xDF then ([], { missing := 1, number := b - 0xC0 })
  else if 0xE0 ≤ b && b ≤ 0xEF then
    ([], { missing := 2, number := b - 0xE0, low := if b = 0xE0 then 0xA0 else 0x80,
           high := if b = 0xED then 0x9F else 0xBF })
  else if 0xF0 ≤ b && b ≤ 0xF4 then
    ([], { missing := 3, number := b - 0xF0, low := if b = 0xF0 then 0x90 else 0x80,
           high := if b = 0xF4 then 0x8F else 0xBF })
  else ([replacement], {})

/-- Characters that bytes write after what has begun. -/
def textOfBytes (s : BegunChar) : List Nat → List Char
  | [] => if s.missing = 0 then [] else [replacement]
  | b :: bs =>
    if s.missing = 0 then (beginChar b).1 ++ textOfBytes (beginChar b).2 bs
    else if s.low ≤ b && b ≤ s.high then
      let number := s.number * 64 + (b - 0x80)
      if s.missing = 1 then Char.ofNat number :: textOfBytes {} bs
      else textOfBytes { missing := s.missing - 1, number } bs
    else replacement :: (beginChar b).1 ++ textOfBytes (beginChar b).2 bs

/-! ## 3. Reading -/

/-- Bytes of a text with escapes. -/
def percentBytes : List Char → List Nat
  | '%' :: a :: b :: cs =>
    match hexNumber? [a, b] with
    | some n => n :: percentBytes cs
    | none => bytesOf '%' ++ percentBytes (a :: b :: cs)
  | c :: cs => bytesOf c ++ percentBytes cs
  | [] => []

/-- Text without escapes. -/
def unescapePercent (s : String) : String :=
  String.ofList (textOfBytes {} (percentBytes s.toList))

end ClientGen.Text
