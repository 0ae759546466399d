import ClientGen.Moment
import ClientGen.Number.Float
import ClientGen.Text.Letter
import ClientGen.Toml.Layout

/-!
# Days and times of configuration texts

A time is six digits in pairs with colons between them, perhaps with a fraction, and what
follows does not count. A day is a year, a month and a day with one character between each
two; it may be followed by a time, a fraction of a second, and the distance from universal
time. This file fixes

* times, of which only the beginning of a text is looked at;
* days and instants, whose numbers stand at fixed places.
-/
namespace ClientGen.Toml

open ClientGen.Text ClientGen.Number

-- A power is a repeated product.
attribute [local instance (high)] instPowNat

/-! ## 1. Times -/

/-- Two digits at the front as a number, and the rest. -/
def takePair? : List Char → Option (Nat × List Char)
  | a :: b :: cs => if a.isDigit && b.isDigit then some (digitsValue [a, b], cs) else none
  | _ => none

/-- Rest behind a colon. -/
def behindColon? : List Char → Option (List Char)
  | ':' :: cs => some cs
  | _ => none

/-- Hours, minutes, seconds and fraction at the front of a text. A fraction has three to six
digits, which count as microseconds. -/
def timeNumbers? (cs : List Char) : Option (Nat × Nat × Nat × Nat) := do
  let (hour, cs) ← takePair? cs
  let (minute, cs) ← takePair? (← behindColon? cs)
  let (second, cs) ← takePair? (← behindColon? cs)
  let fraction := match cs with
    | '.' :: cs => (cs.takeWhile Char.isDigit).take 6
    | _ => []
  return (hour, minute, second, if fraction.length < 3 then 0 else digitsValue fraction)

/-! ## 2. Days and instants -/

/-- Number that stands between two places of a text. -/
def numberBetween? (cs : List Char) (first last : Nat) : Option Int :=
  (readInteger (String.ofList ((cs.drop first).take (last - first)))).toOption

/-- Minutes that a distance from universal time says: a sign, hours, one character, minutes. -/
def minutesAhead? (cs : List Char) : Option Int :=
  if cs = ['Z'] then some 0
  else do
    let minutes := 60 * (← numberBetween? cs 1 3) + (← numberBetween? cs 4 6)
    return if cs.head? = some '-' then -minutes else minutes

/-- Microseconds of a fraction. More than six digits are scaled as floating-point numbers. -/
def microseconds? (digits : List Char) : Except ReadFault (Option Int) :=
  match readInteger (String.ofList digits) with
  | .error _ => .ok none
  | .ok n =>
    if digits.length ≤ 6 then .ok (some (n * 10 ^ (6 - digits.length)))
    else
      match Binary64.ofInt n with
      | .finite b m q =>
        let scale := Binary64.ofDecimal false 1 (6 - digits.length)
        .ok ((Binary64.finite b m q).times? scale >>= Binary64.truncate?)
      | _ => .error .tooLarge

/-- Digits of a fraction and the distance from universal time behind them, if there is one. -/
def splitFraction (cs : List Char) : List Char × Option (List Char) :=
  let signAt (sign : Char) : List Char × Option (List Char) :=
    (cs.takeWhile (· ≠ sign), some (cs.dropWhile (· ≠ sign)))
  if cs.getLast?.any fun c => c = 'Z' || c = 'z' then (cs.dropLast, some ['Z'])
  else if cs.contains '+' then signAt '+'
  else if cs.contains '-' then signAt '-'
  else (cs, none)

/-- Microseconds and distance from universal time behind the seconds; where one of them
cannot be read neither counts. -/
def behindSeconds (cs : List Char) : Except ReadFault (Int × Option Int) :=
  match cs with
  | [] => .ok (0, none)
  | '.' :: cs => do
    let (digits, zone) := splitFraction cs
    match zone.map minutesAhead? with
    | some none => return (0, none)
    | ahead =>
      match ← microseconds? digits with
      | some n => return (n, ahead.join)
      | none => return (0, none)
  | cs => .ok (0, minutesAhead? cs)

/-- Day at the front of a text. -/
def dayOf? (cs : List Char) : Option Day := do
  Day.ofNumbers? (← numberBetween? cs 0 4) (← numberBetween? cs 5 7) (← numberBetween? cs 8 10)

/-- Day or instant that a text writes; it has a hyphen behind its first character. -/
def moment? (cs : List Char) : Except ReadFault (Option Moment) := do
  let (microsecond, ahead) ← behindSeconds (cs.drop 19)
  if !(cs.drop 1).contains '-' then return none
  if cs.length = 10 then return (dayOf? cs).map .day
  return do
    let day ← dayOf? cs
    let clock ← ClockTime.ofNumbers? (← numberBetween? cs 11 13) (← numberBetween? cs 14 16)
      (← numberBetween? cs 17 19) microsecond
    return .instant day clock ahead

end ClientGen.Toml
