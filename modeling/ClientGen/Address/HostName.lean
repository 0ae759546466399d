import ClientGen.Address.Composition
import ClientGen.Address.Letters
import ClientGen.Address.Punycode
import ClientGen.Text.Quoted

/-!
# Names of hosts

The name of a host is a row of labels with points between them. Names are passed on in
ASCII: a label with other characters is escaped, behind four characters that no label has
otherwise. This file fixes

* what can be wrong with a name;
* labels: which characters may stand in one, next to which others, and in which directions
  they may be written;
* names in ASCII and in letters.
-/
namespace ClientGen.Address

open ClientGen.Text

/-! ## 1. What can be wrong -/

/-- Why a name cannot be the name of a host. Positions count from one. -/
inductive NameFault where
  | noName
  | noLabel
  | longName
  | longLabel
  | notComposed
  | hyphensInside
  | hyphenAtEnd
  | markAtStart
  | joinerMisplaced (number position : Nat) (label : List Nat)
  | joinerNearUnknown (number position : Nat) (label : List Nat)
  | misplaced (number position : Nat) (label : List Nat)
  | notALetter (number position : Nat) (label : List Nat)
  | unknownDirection (position : Nat) (label : List Nat)
  | noStartDirection (label : List Nat)
  | againstRight (position : Nat)
  | againstLeft (position : Nat)
  | mixedDigits
  | noEndDirection
  | nothingEscaped
  | escapeOpen
  | badEscape
  | longEscape
  deriving DecidableEq, Repr

/-- Label as it is shown. -/
def labelText (label : List Nat) : String := quoted (String.ofList (label.map charOf))

/-- Code point as it is shown: at least four capital hexadecimal digits. -/
def codePointText (n : Nat) : String :=
  let digits := (Nat.toDigits 16 n).map Char.toUpper
  "U+" ++ String.ofList (List.replicate (4 - digits.length) '0' ++ digits)

/-- Wording of a fault. -/
def NameFault.message : NameFault → String
  | .noName => "Empty domain"
  | .noLabel => "Empty Label"
  | .longName => "Domain too long"
  | .longLabel => "Label too long"
  | .notComposed => "Label must be in Normalization Form C"
  | .hyphensInside => "Label has disallowed hyphens in 3rd and 4th position"
  | .hyphenAtEnd => "Label must not start or end with a hyphen"
  | .markAtStart => "Label begins with an illegal combining character"
  | .joinerMisplaced n i l =>
    "Joiner " ++ codePointText n ++ " not allowed at position " ++ toString i ++ " in "
      ++ labelText l
  | .joinerNearUnknown n i l =>
    "Unknown codepoint adjacent to joiner " ++ codePointText n ++ " at position " ++ toString i
      ++ " in " ++ labelText l
  | .misplaced n i l =>
    "Codepoint " ++ codePointText n ++ " not allowed at position " ++ toString i ++ " in "
      ++ labelText l
  | .notALetter n i l =>
    "Codepoint " ++ codePointText n ++ " at position " ++ toString i ++ " of " ++ labelText l
      ++ " not allowed"
  | .unknownDirection i l =>
    "Unknown directionality in label " ++ labelText l ++ " at position " ++ toString i
  | .noStartDirection l =>
    "First codepoint in label " ++ labelText l ++ " must be directionality L, R or AL"
  | .againstRight i =>
    "Invalid direction for codepoint at position " ++ toString i ++ " in a right-to-left label"
  | .againstLeft i =>
    "Invalid direction for codepoint at position " ++ toString i ++ " in a left-to-right label"
  | .mixedDigits => "Can not mix numeral types in a right-to-left label"
  | .noEndDirection => "Label ends with illegal codepoint directionality"
  | .nothingEscaped => "Malformed A-label, no Punycode eligible content found"
  | .escapeOpen => "A-label must not end with a hyphen"
  | .badEscape => "Invalid A-label"
  | .longEscape => "A-label is not the canonical Punycode encoding of its U-label"

/-! ## 2. Characters and their neighbours -/

/-- Tells whether some row of a table holds the code point. -/
def isIn (table : List CodeRange) (n : Nat) : Bool := table.any (·.holds n)

/-- The mark that keeps letters from joining. -/
def nonJoiner : Nat := 0x200C

/-- The mark that makes letters join. -/
def joiner : Nat := 0x200D

/-- The point between letters of Japanese. -/
def kanaPoint : Nat := 0x30FB

/-- Tells whether a code point is a digit of Arabic. -/
def isArabicDigit (n : Nat) : Bool := 0x660 ≤ n && n ≤ 0x669

/-- Tells whether a code point is a digit of Persian. -/
def isPersianDigit (n : Nat) : Bool := 0x6F0 ≤ n && n ≤ 0x6F9

/-- Tells whether a letter before the mark that keeps from joining joins to it. -/
def joinsAfter (n : Nat) : Bool := isIn joiningAfterRanges n || isIn joiningRanges n

/-- Tells whether a letter after that mark joins to it. -/
def joinsBefore (n : Nat) : Bool := isIn joiningBeforeRanges n || isIn joiningRanges n

/-- First code point over which letters do not join. -/
def firstFree? (ns : List Nat) : Option Nat := ns.find? fun n => !isIn joinedOverRanges n

/-- Tells whether nothing is known of a character but that it may stand in a name. -/
def isUnknown (n : Nat) : Bool := isIn unknownRanges n || isIn unnamedRanges n

/-- Tells whether a joiner may stand between what is before it, in reverse, and after it. -/
def joinerFits (n : Nat) (before after : List Nat) : Bool :=
  before.head?.any (isIn silencingRanges) ||
    (n = nonJoiner && (firstFree? before).any joinsAfter && (firstFree? after).any joinsBefore)

/-- Tells whether a code point that needs certain neighbours has them; nothing for one that
needs none. What is before it is in reverse. -/
def neighboursFit? (n : Nat) (before after : List Nat) : Option Bool :=
  if n = 0xB7 then some (before.head? = some 0x6C && after.head? = some 0x6C)
  else if n = 0x375 then some (after.head?.any (isIn greekRanges))
  else if n = 0x5F3 || n = 0x5F4 then some (before.head?.any (isIn hebrewRanges))
  else if n = kanaPoint then
    some ((before ++ after).any fun m => m ≠ kanaPoint && isIn kanaRanges m)
  else if isArabicDigit n then some (!(before ++ after).any isPersianDigit)
  else if isPersianDigit n then some (!(before ++ after).any isArabicDigit)
  else none

/-- Checks the characters of a label; those before are in reverse. -/
def checkLetters (label before : List Nat) : List Nat → Except NameFault Unit
  | [] => .ok ()
  | n :: after => do
    let position := before.length + 1
    if !isIn nameRanges n then
      if n = nonJoiner || n = joiner then
        if before.head?.any isUnknown then throw (.joinerNearUnknown n position label)
        if !joinerFits n before after then throw (.joinerMisplaced n position label)
      else
        match neighboursFit? n before after with
        | some true => pure ()
        | some false => throw (.misplaced n position label)
        | none => throw (.notALetter n position label)
    checkLetters label (n :: before) after

/-! ## 3. Directions -/

/-- How a character is written: to the left or to the right, as a number, or as its
neighbours are. -/
inductive Direction where
  | left | right | arabicNumber | number | neutral | attached
  deriving DecidableEq, Repr

/-- Direction of a character. -/
def Direction.of (n : Nat) : Direction :=
  if isIn attachedRanges n then .attached
  else if isIn rightRanges n || isIn arabicRanges n then .left
  else if isIn arabicNumberRanges n then .arabicNumber
  else if isIn numberRanges n then .number
  else if isIn neutralRanges n then .neutral
  else .right

/-- Checks a label that is written to the left: `number` is the kind of digits met so far,
`ends` tells whether the label could end before the position. -/
def checkLeftward (position : Nat) (number : Option Direction) (ends : Bool) :
    List Direction → Except NameFault Unit
  | [] => if ends then .ok () else .error .noEndDirection
  | d :: ds => do
    if d = .right then throw (.againstRight position)
    let isNumber := d = .number || d = .arabicNumber
    if isNumber && number.any (· ≠ d) then throw .mixedDigits
    checkLeftward (position + 1) (if isNumber then some d else number)
      (if d = .attached then ends else d = .left || isNumber) ds

/-- Checks a label that is written to the right. -/
def checkRightward (position : Nat) (ends : Bool) : List Direction → Except NameFault Unit
  | [] => if ends then .ok () else .error .noEndDirection
  | d :: ds => do
    if d = .left || d = .arabicNumber then throw (.againstLeft position)
    checkRightward (position + 1)
      (if d = .attached then ends else d = .right || d = .number) ds

/-- Checks the directions of a label: all must be known, and where nothing is written to the
left all is well. -/
def checkDirections (label : List Nat) : Except NameFault Unit := do
  if label.any (isIn unknownRanges) then
    throw (.unknownDirection (label.findIdx (isIn unknownRanges) + 1) label)
  let directions := label.map Direction.of
  if directions.any fun d => d = .left || d = .arabicNumber then
    match directions.head? with
    | some .left => checkLeftward 1 none false directions
    | some .right => checkRightward 1 false directions
    | _ => .error (.noStartDirection label)
  else .ok ()

/-! ## 4. Labels -/

/-- Checks a label. -/
def checkLabel (label : List Nat) : Except NameFault Unit := do
  let hyphen := '-'.toNat
  let some first := label.head? | throw .noLabel
  if !isComposed label then throw .notComposed
  if (label.drop 2).take 2 = [hyphen, hyphen] then throw .hyphensInside
  if first = hyphen || label.getLast? = some hyphen then throw .hyphenAtEnd
  if isIn markRanges first then throw .markAtStart
  checkLetters label [] label
  checkDirections label

/-- What stands before an escaped label. -/
def escapeMark : List Char := ['x', 'n', '-', '-']

/-- Label in letters of one in ASCII. -/
def labelLetters (cs : List Char) : Except NameFault (List Nat) := do
  let cs := cs.map Char.toLower
  if escapeMark.isPrefixOf cs then
    let escaped := cs.drop escapeMark.length
    if escaped.isEmpty then throw .nothingEscaped
    if escaped.getLast? = some '-' then throw .escapeOpen
    let some label := Punycode.decode? escaped | throw .badEscape
    checkLabel label
    if Punycode.encode label ≠ escaped then throw .longEscape
    return label
  else
    let label := cs.map Char.toNat
    checkLabel label
    return label

/-- Most characters of a label in ASCII. -/
def maxLabelLength : Nat := 63

/-- Label in ASCII. -/
def labelAscii (cs : List Char) : Except NameFault (List Char) := do
  let label := cs.map Char.toNat
  let ascii ←
    if label.all (· < 0x80) then
      let _ ← labelLetters cs
      pure cs
    else
      checkLabel label
      pure (escapeMark ++ Punycode.encode label)
  if maxLabelLength < ascii.length then throw .longLabel
  return ascii

/-! ## 5. Names -/

/-- Points that divide labels, each written as the plain one. -/
def plainPoint (c : Char) : Char :=
  if [0x3002, 0xFF0E, 0xFF61].contains c.toNat then '.' else c

/-- Name whose labels are each read; a point at the end stays. -/
def mapLabels (f : List Char → Except NameFault (List Char)) (s : String) :
    Except NameFault (List Char) := do
  if s = "" then throw .noName
  let labels := splitOn '.' (s.toList.map plainPoint)
  let isOpen := labels.getLast? = some []
  let labels ← (if isOpen then labels.dropLast else labels).mapM f
  return ['.'].intercalate (labels ++ if isOpen then [[]] else [])

/-- Most characters of a name in ASCII, a point at the end apart. -/
def maxNameLength : Nat := 253

/-- Name in ASCII. -/
def nameAscii (s : String) : Except NameFault String := do
  let name ← mapLabels labelAscii s
  if maxNameLength + (if name.getLast? = some '.' then 1 else 0) < name.length then
    throw .longName
  return String.ofList name

/-- Name in letters of one in ASCII. -/
def nameLetters (s : String) : Except NameFault String := do
  if maxNameLength + 1 < s.length then throw .longName
  return String.ofList (← mapLabels (fun l => return (← labelLetters l).map Char.ofNat) s)

end ClientGen.Address
