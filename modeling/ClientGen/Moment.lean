import ClientGen.Text.Digit

/-!
# Days and times

Days of the calendar, times of a day, and instants that have both and perhaps a distance
from universal time. This file fixes

* which numbers make a day and a time: every month has its own length;
* their texts: digits in groups of fixed width, a fraction only when there is one; and which
  instants have none.
-/
namespace ClientGen

/-! ## 1. Days and times -/

/-- A day of the calendar. -/
structure Day where
  year : Nat
  month : Nat
  day : Nat
  deriving DecidableEq, Repr

/-- A time of a day, to the microsecond. -/
structure ClockTime where
  hour : Nat
  minute : Nat
  second : Nat
  microsecond : Nat
  deriving DecidableEq, Repr

/-- A day, a time, or both with the minutes that the place is ahead of universal time. -/
inductive Moment where
  | day (d : Day)
  | clock (t : ClockTime)
  | instant (d : Day) (t : ClockTime) (ahead : Option Int)
  deriving DecidableEq, Repr

/-- Tells whether a year has a leap day. -/
def isLeapYear (year : Nat) : Bool := year % 4 = 0 && (year % 100 ≠ 0 || year % 400 = 0)

/-- Number of days of a month. -/
def daysOfMonth (year month : Nat) : Nat :=
  if month = 2 then (if isLeapYear year then 29 else 28)
  else if month = 4 || month = 6 || month = 9 || month = 11 then 30
  else 31

/-- Day of three numbers, if the calendar has it. -/
def Day.ofNumbers? (year month day : Int) : Option Day :=
  if 1 ≤ year && year ≤ 9999 && 1 ≤ month && month ≤ 12 && 1 ≤ day
      && day ≤ daysOfMonth year.toNat month.toNat then
    some ⟨year.toNat, month.toNat, day.toNat⟩
  else none

/-- Time of four numbers, if a day has it. -/
def ClockTime.ofNumbers? (hour minute second microsecond : Int) : Option ClockTime :=
  if 0 ≤ hour && hour < 24 && 0 ≤ minute && minute < 60 && 0 ≤ second && second < 60
      && 0 ≤ microsecond && microsecond < 1000000 then
    some ⟨hour.toNat, minute.toNat, second.toNat, microsecond.toNat⟩
  else none

/-! ## 2. Texts -/

/-- Number with at least `width` digits. -/
def paddedText (width n : Nat) : String :=
  let ds := toString n
  String.ofList (List.replicate (width - ds.length) '0') ++ ds

/-- Text of a day. -/
def Day.text (d : Day) : String :=
  paddedText 4 d.year ++ "-" ++ paddedText 2 d.month ++ "-" ++ paddedText 2 d.day

/-- Text of a time. -/
def ClockTime.text (t : ClockTime) : String :=
  paddedText 2 t.hour ++ ":" ++ paddedText 2 t.minute ++ ":" ++ paddedText 2 t.second
    ++ (if t.microsecond = 0 then "" else "." ++ paddedText 6 t.microsecond)

/-- Text of the distance from universal time. -/
def aheadText : Option Int → String
  | none => ""
  | some minutes =>
    (if minutes < 0 then "-" else "+") ++ paddedText 2 (minutes.natAbs / 60) ++ ":"
      ++ paddedText 2 (minutes.natAbs % 60)

/-- Text of a moment; `between` stands between day and time. -/
def Moment.textWith (between : String) : Moment → String
  | .day d => d.text
  | .clock t => t.text
  | .instant d t ahead => d.text ++ between ++ t.text ++ aheadText ahead

/-- Tells whether a moment has a text: no place is a whole day ahead of universal time or
behind it. -/
def Moment.hasText : Moment → Bool
  | .instant _ _ (some minutes) => minutes.natAbs < 24 * 60
  | _ => true

/-- Text of a moment. -/
def Moment.text (m : Moment) : String := m.textWith " "

/-- Numbers of a time as they are listed: the fraction is left out when there is none, and
then the seconds too when there are none. -/
def ClockTime.listed (t : ClockTime) : List Nat :=
  [t.hour, t.minute] ++
    (if t.microsecond ≠ 0 then [t.second, t.microsecond] else if t.second ≠ 0 then [t.second] else [])

/-- Text of a moment inside a list or record: its kind and its numbers. -/
def Moment.inner (m : Moment) : String :=
  let call (kind : String) (ns : List Nat) : String :=
    "datetime." ++ kind ++ "(" ++ String.intercalate ", " (ns.map toString) ++ ")"
  match m with
  | .day d => call "date" [d.year, d.month, d.day]
  | .clock t => call "time" t.listed
  | .instant d t _ => call "datetime" ([d.year, d.month, d.day] ++ t.listed)

end ClientGen
