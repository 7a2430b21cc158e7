/-
  DocumentStore.Time — points in time on the calendar.

  Times are microseconds since the start of 1970, in universal time, on the Gregorian
  calendar. For `dateOf` years start with March, so that a leap day is the last of its year,
  and 400 years have 146097 days. The calendar ends with the years 1 and 9999.
-/

import DocumentStore.Failure
import DocumentStore.Decimal.Shortest

namespace DocumentStore.Time

open DocumentStore.Decimal

structure Date where
  year : Int
  month : Nat
  day : Nat
  deriving DecidableEq, Repr

/-- The date that comes a number of days after the first of January 1970. -/
def dateOf (days : Int) : Date :=
  let z := days + 719468
  let era := z / 146097
  let doe := (z % 146097).toNat
  let yoe := (doe - doe / 1460 + doe / 36524 - doe / 146096) / 365
  let doy := doe - (365 * yoe + yoe / 4 - yoe / 100)
  let mp := (5 * doy + 2) / 153
  let month := if mp < 10 then mp + 3 else mp - 9
  ⟨(yoe : Int) + era * 400 + (if month ≤ 2 then 1 else 0), month, doy - (153 * mp + 2) / 5 + 1⟩

structure Moment where
  date : Date
  hour : Nat
  minute : Nat
  second : Nat
  micro : Nat
  deriving DecidableEq, Repr

def microsPerDay : Int := 86400000000

/-- The moment that comes a number of microseconds after the start of 1970. -/
def momentOf (micros : Int) : Except Failure Moment :=
  let date := dateOf (micros / microsPerDay)
  let rest := (micros % microsPerDay).toNat
  let seconds := rest / 1000000
  if 1 ≤ date.year ∧ date.year ≤ 9999 then
    .ok ⟨date, seconds / 3600, seconds / 60 % 60, seconds % 60, rest % 1000000⟩
  else .error (.value (.year (date.year.bmod (twoTo 32))))

/-- The moment as a clock shows it that also asks what it showed a day before, so that day has to
be on the calendar too. -/
def localMomentOf (micros : Int) : Except Failure Moment :=
  match momentOf (micros - microsPerDay) with
  | .error f => .error f
  | .ok _ => momentOf micros

/-- The microseconds in a count of seconds, a half to the even one. The fraction is taken
off first and scaled in floating-point. -/
def microsOf : Number → Except Failure Int
  | .int n => .ok (n * 1000000)
  | .float .nan => .error (.value .notATime)
  | .float (.infinite _) => .error .timeRange
  | .float (.finite negative m e) =>
    let (num, den) := if 0 ≤ e then (m * twoTo e.toNat, 1) else (m, twoTo (-e).toNat)
    let fraction := match Binary64.ofRatio false (num % den * 1000000) den with
      | .finite _ m e => if 0 ≤ e then m * twoTo e.toNat else roundDiv m (twoTo (-e).toNat)
      | _ => 0
    let micros : Nat := num / den * 1000000 + fraction
    .ok (if negative then -(micros : Int) else micros)

/-- How many seconds are counted from 1970 on, and how many before it. -/
def secondsRange : Int := twoTo 63

/-- How many years are counted from 1900 on, and how many before it. -/
def yearsRange : Int := twoTo 31

/-- The microseconds in a count of seconds, if the calendar holds the moment. -/
def ofSeconds (seconds : Number) : Except Failure Int :=
  match microsOf seconds with
  | .error f => .error f
  | .ok micros =>
    let seconds := micros / 1000000
    let years := (dateOf (micros / microsPerDay)).year - 1900
    if seconds < -secondsRange ∨ secondsRange ≤ seconds then .error .timeRange
    else if years < -yearsRange ∨ yearsRange ≤ years then .error .yearRange
    else (momentOf micros).map fun _ => micros

def padded (width : Nat) (n : Nat) : String :=
  let ds := Nat.toDigits 10 n
  String.ofList (List.replicate (width - ds.length) '0' ++ ds)

def Date.text (d : Date) : String :=
  padded 4 d.year.toNat ++ "-" ++ padded 2 d.month ++ "-" ++ padded 2 d.day

def Moment.clockText (t : Moment) : String :=
  padded 2 t.hour ++ ":" ++ padded 2 t.minute ++ ":" ++ padded 2 t.second

/-- The date and time, with the microseconds if there are any. -/
def Moment.text (t : Moment) : String :=
  t.date.text ++ "T" ++ t.clockText ++ (if t.micro = 0 then "" else "." ++ padded 6 t.micro) ++ "Z"

/-- Whether a year has a leap day. -/
def isLeap (year : Nat) : Bool := year % 4 == 0 && (year % 100 != 0 || year % 400 == 0)

def daysInMonth (year month : Nat) : Nat :=
  if month = 2 then if isLeap year then 29 else 28
  else if month = 4 ∨ month = 6 ∨ month = 9 ∨ month = 11 then 30
  else 31

end DocumentStore.Time
