import Adocify.Text.Basic

/-! Dates and times of day in the proleptic Gregorian calendar, years 1 to 9999. -/

namespace Adocify

structure Date where
  year : Nat
  month : Nat
  day : Nat
  deriving Repr, DecidableEq

structure TimeOfDay where
  hour : Nat
  minute : Nat
  second : Nat
  microsecond : Nat
  deriving Repr, DecidableEq

/-- A date and a time, with the distance from universal time in minutes if it is known. -/
structure Moment where
  date : Date
  time : TimeOfDay
  offset : Option Int
  deriving Repr, DecidableEq

def isLeapYear (year : Nat) : Bool :=
  year % 4 == 0 && (year % 100 != 0 || year % 400 == 0)

def daysInMonth (year month : Nat) : Nat :=
  if month == 2 then (if isLeapYear year then 29 else 28)
  else if [4, 6, 9, 11].contains month then 30
  else 31

def Date.exists (date : Date) : Bool :=
  1 ≤ date.year && date.year ≤ 9999 && 1 ≤ date.month && date.month ≤ 12 &&
    1 ≤ date.day && date.day ≤ daysInMonth date.year date.month

def TimeOfDay.exists (time : TimeOfDay) : Bool :=
  time.hour < 24 && time.minute < 60 && time.second < 60 && time.microsecond < 1000000

/-- An offset stays below one day. -/
def Moment.exists (moment : Moment) : Bool :=
  moment.date.exists && moment.time.exists && moment.offset.all fun minutes => minutes.natAbs < 1440

/-- The days from a fixed day to the date. -/
def Date.dayNumber (date : Date) : Nat :=
  let before := date.year - 1
  let inYear := (List.range (date.month - 1)).foldl (fun days month => days + daysInMonth date.year (month + 1)) 0
  before * 365 + before / 4 - before / 100 + before / 400 + inYear + date.day

/-- The microseconds from a fixed instant to the moment, told in its own zone. -/
def Moment.localInstant (moment : Moment) : Nat :=
  let time := moment.time
  (((moment.date.dayNumber * 24 + time.hour) * 60 + time.minute) * 60 + time.second) * 1000000 + time.microsecond

/-- Moments are the same if they are the same instant; one whose zone is unknown is the same as none
whose zone is known. -/
def Moment.same (x y : Moment) : Bool :=
  match x.offset, y.offset with
  | none, none => x == y
  | some a, some b => (x.localInstant : Int) - a * 60000000 == (y.localInstant : Int) - b * 60000000
  | _, _ => false

def Date.toText (date : Date) : Text :=
  Text.padded 4 date.year ++ '-' :: Text.padded 2 date.month ++ '-' :: Text.padded 2 date.day

def TimeOfDay.toText (time : TimeOfDay) : Text :=
  let fraction := if time.microsecond == 0 then [] else '.' :: Text.padded 6 time.microsecond
  Text.padded 2 time.hour ++ ':' :: Text.padded 2 time.minute ++ ':' :: Text.padded 2 time.second ++ fraction

def offsetText (minutes : Int) : Text :=
  (if minutes < 0 then '-' else '+') :: Text.padded 2 (minutes.natAbs / 60) ++
    ':' :: Text.padded 2 (minutes.natAbs % 60)

def Moment.toText (moment : Moment) : Text :=
  moment.date.toText ++ ' ' :: moment.time.toText ++ (moment.offset.map offsetText).getD []

/-- A call with its arguments, the form of a date inside a compound value. -/
def callText (name : String) (arguments : List Text) : Text :=
  name.toList ++ '(' :: Text.join ", ".toList arguments ++ [')']

def Date.fields (date : Date) : List Nat := [date.year, date.month, date.day]

/-- Seconds are left out when they and the microseconds are zero. -/
def TimeOfDay.fields (time : TimeOfDay) : List Nat :=
  [time.hour, time.minute] ++
    if time.microsecond != 0 then [time.second, time.microsecond]
    else if time.second != 0 then [time.second]
    else []

def zoneText (minutes : Int) : Text :=
  if minutes == 0 then "datetime.timezone.utc".toList
  else
    let days := minutes.fdiv 1440
    let seconds := (minutes.fmod 1440) * 60
    let parts := (if days == 0 then [] else ["days=".toList ++ Text.ofInt days]) ++
      (if seconds == 0 then [] else ["seconds=".toList ++ Text.ofInt seconds])
    callText "datetime.timezone" [callText "datetime.timedelta" parts]

def Date.inner (date : Date) : Text := callText "datetime.date" (date.fields.map Text.ofNat)

def TimeOfDay.inner (time : TimeOfDay) : Text := callText "datetime.time" (time.fields.map Text.ofNat)

def Moment.inner (moment : Moment) : Text :=
  callText "datetime.datetime" <|
    (moment.date.fields ++ moment.time.fields).map Text.ofNat ++
      (moment.offset.map fun minutes => "tzinfo=".toList ++ zoneText minutes).toList

end Adocify
