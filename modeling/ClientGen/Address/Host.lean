import ClientGen.Address.HostName
import ClientGen.Text.Charset
import ClientGen.Text.Letter
import ClientGen.Text.Percent

/-!
# Hosts

A host is a number, four decimal ones with points between them or eight hexadecimal ones
with colons, or a name. A host that looks like four numbers must be four numbers. This file
fixes

* numbers of the two kinds;
* hosts as they are passed on: numbers as they are, names in small letters and ASCII.
-/
namespace ClientGen.Address

open ClientGen.Text

/-! ## 1. Four numbers -/

/-- Tells whether a text holds digits and nothing else. -/
def isDecimal (cs : List Char) : Bool := cs.all fun c => '0' ≤ c && c ≤ '9'

/-- Tells whether a host looks like four numbers: four rows of digits, of any length, with
points between them. -/
def looksLikeNumbers (cs : List Char) : Bool :=
  let rows := splitOn '.' cs
  rows.length = 4 && rows.all fun r => !r.isEmpty && isDecimal r

/-- Tells whether some characters write one of four numbers. -/
def isByte (cs : List Char) : Bool :=
  cs ≠ [] && cs.length ≤ 3 && isDecimal cs && (cs.head? ≠ some '0' || cs.length = 1) &&
    cs.foldl (fun n c => 10 * n + (c.toNat - 48)) 0 ≤ 255

/-- Tells whether some characters are four numbers. -/
def isFourNumbers (cs : List Char) : Bool :=
  let parts := splitOn '.' cs
  parts.length = 4 && parts.all isByte

/-! ## 2. Eight numbers -/

/-- Tells whether some characters write one of eight numbers. -/
def isQuad (cs : List Char) : Bool :=
  cs ≠ [] && cs.length ≤ 4 && cs.all fun c => (hexValue? c).isSome

/-- Numbers on one side of a gap; at the very start or end there need not be any. -/
def besideGap (parts : List (List Char)) : List (List Char) := if parts = [[]] then [] else parts

/-- Tells whether parts between colons are eight numbers. Where two colons meet is a gap, in
which at least one number is left out. -/
def isEightNumbers (parts : List (List Char)) : Bool :=
  let inside := (parts.drop 1).dropLast
  match (inside.filter (· = [])).length with
  | 0 => parts.length = 8 && parts.all isQuad
  | 1 =>
    let gap := inside.idxOf [] + 1
    let numbers := besideGap (parts.take gap) ++ besideGap (parts.drop (gap + 1))
    numbers.length ≤ 7 && numbers.all isQuad
  | _ => false

/-- Parts between colons; four decimal numbers at the end stand for two hexadecimal ones. -/
def colonParts? (cs : List Char) : Option (List (List Char)) :=
  let parts := splitOn ':' cs
  match parts.getLast? with
  | some last =>
    if last.contains '.' then
      if isFourNumbers last then some (parts.dropLast ++ [['0'], ['0']]) else none
    else some parts
  | none => none

/-- Tells whether some characters are eight numbers, a zone behind a percent sign apart. -/
def isColonNumber (cs : List Char) : Bool :=
  let number := cs.takeWhile (· ≠ '%')
  let zone := cs.drop number.length
  let isZone := zone = [] || (zone.length > 1 && !(zone.drop 1).contains '%')
  isZone && 3 ≤ (splitOn ':' number).length &&
    ((colonParts? number).any fun parts => parts.length ≤ 9 && isEightNumbers parts)

/-! ## 3. Hosts -/

/-- Why a text is no host. -/
inductive HostFault where
  | fourNumbers (host : String)
  | eightNumbers (host : String)
  | name (host : String)
  deriving DecidableEq, Repr

/-- Wording of a fault. -/
def HostFault.message : HostFault → String
  | .fourNumbers h => "Invalid IPv4 address: " ++ quoted h
  | .eightNumbers h => "Invalid IPv6 address: " ++ quoted h
  | .name h => "Invalid IDNA hostname: " ++ quoted h

/-- Tells whether a character stands as itself everywhere in an address. -/
def isUnreserved (c : Char) : Bool := c.isAlphanum || "-._~".toList.contains c

/-- Tells whether a character stands as itself in the name of a host. -/
def standsInHost (c : Char) : Bool :=
  isUnreserved c || "!$&'()*+,;=\"\x60\x7b\x7d%|\\".toList.contains c

/-- Host as it is passed on; eight numbers lose their brackets. -/
def hostOf (s : String) : Except HostFault String :=
  let cs := s.toList
  if s = "" then .ok ""
  else if looksLikeNumbers cs then
    if isFourNumbers cs then .ok s else .error (.fourNumbers s)
  else if startsWith s "[" && endsWith s "]" then
    let number := (cs.drop 1).dropLast
    if isColonNumber number then .ok (String.ofList number) else .error (.eightNumbers s)
  else if isAscii s then .ok (escapePercent standsInHost (toLower s))
  else (nameAscii (toLower s)).mapError fun _ => .name s

/-- Tells whether the first label of a host is escaped. -/
def isEscapedName (host : String) : Bool := startsWith host (String.ofList escapeMark)

/-- Host in letters. -/
def hostLetters (host : String) : Except NameFault String :=
  if isEscapedName host then nameLetters host else .ok host

end ClientGen.Address
