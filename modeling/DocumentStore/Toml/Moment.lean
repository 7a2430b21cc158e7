/-
  DocumentStore.Toml.Moment — dates and times in TOML.

  A date, a time of day, or a date with a time of day, which may say how far its clock is ahead
  of universal time. A store holds none of them, but a document may, and then they are shown.
  Microseconds are kept, and what is smaller is cut off.
-/

import DocumentStore.Time
import DocumentStore.Toml.Fault

namespace DocumentStore.Toml

structure Clock where
  hour : Nat
  minute : Nat
  second : Nat
  micro : Nat
  deriving DecidableEq, Repr

inductive Moment where
  | date (year month day : Nat)
  | time (clock : Clock)
  /-- A date and a time; `ahead` says by how many minutes the clock is ahead, if that is known. -/
  | dateTime (year month day : Nat) (clock : Clock) (ahead : Option Int)
  deriving DecidableEq, Repr

/-! ## Showing -/

/-- The numbers of a clock; seconds are left out when they and all behind them are zero. -/
def Clock.fields (c : Clock) : List Nat :=
  [c.hour, c.minute] ++ (if c.second = 0 ∧ c.micro = 0 then [] else [c.second]) ++
    (if c.micro = 0 then [] else [c.micro])

/-- A difference of some minutes as whole days and the seconds left, which are never negative. -/
def differenceShown (minutes : Int) : String :=
  let days := minutes / 1440
  let seconds := minutes % 1440 * 60
  let parts := (if days = 0 then [] else ["days=" ++ Decimal.intText days]) ++
    (if seconds = 0 then [] else ["seconds=" ++ Decimal.intText seconds])
  "datetime.timedelta(" ++ String.intercalate ", " parts ++ ")"

def zoneShown (minutes : Int) : String :=
  if minutes = 0 then "datetime.timezone.utc"
  else "datetime.timezone(" ++ differenceShown minutes ++ ")"

def Moment.shown (m : Moment) : String :=
  let numbers := fun ns : List Nat =>
    String.intercalate ", " (ns.map fun n : Nat => Decimal.intText n)
  match m with
  | .date year month day => "datetime.date(" ++ numbers [year, month, day] ++ ")"
  | .time clock => "datetime.time(" ++ numbers clock.fields ++ ")"
  | .dateTime year month day clock ahead =>
    let zone := match ahead with
      | some minutes => ", tzinfo=" ++ zoneShown minutes
      | none => ""
    "datetime.datetime(" ++ numbers ([year, month, day] ++ clock.fields) ++ zone ++ ")"

def Moment.kind : Moment → String
  | .date _ _ _ => "date"
  | .time _ => "time"
  | .dateTime _ _ _ _ _ => "datetime"

def Moment.toDraft (m : Moment) : Draft := .foreign m.kind m.shown

/-! ## Reading -/

/-- So many digits at the start, within bounds. -/
def takeField (count least greatest : Nat) (cs : List Char) : Option (Nat × List Char) :=
  let ds := cs.take count
  if ds.length = count ∧ ds.all Char.isDigit then
    let n := Text.ofDigits (ds.map fun c => c.toNat - 48)
    if least ≤ n ∧ n ≤ greatest then some (n, cs.drop count) else none
  else none

def takeChar (c : Char) (cs : List Char) : Option (List Char) :=
  match cs with
  | d :: rest => if d = c then some rest else none
  | [] => none

/-- The microseconds of the fraction of a second, if there is one, and the text behind it. -/
def takeMicros (cs : List Char) : Nat × List Char :=
  match cs with
  | '.' :: c :: rest =>
    if c.isDigit then
      let ds := (c :: rest).takeWhile Char.isDigit
      let six := (ds ++ List.replicate 6 '0').take 6
      (Text.ofDigits (six.map fun c => c.toNat - 48), rest.dropWhile Char.isDigit)
    else (0, cs)
  | cs => (0, cs)

/-- A time of day, if there is one. -/
def takeClock? (cs : List Char) : Option (Clock × List Char) := do
  let (hour, rest) ← takeField 2 0 23 cs
  let (minute, rest) ← takeField 2 0 59 (← takeChar ':' rest)
  let (second, rest) ← takeField 2 0 59 (← takeChar ':' rest)
  let (micro, rest) := takeMicros rest
  pure (⟨hour, minute, second, micro⟩, rest)

/-- By how many minutes a clock is ahead, if that is said, and the text behind it. -/
def takeAhead (cs : List Char) : Option Int × List Char :=
  match cs with
  | c :: rest =>
    if c = 'Z' ∨ c = 'z' then (some 0, rest)
    else if c = '+' ∨ c = '-' then
      let found := do
        let (hours, rest) ← takeField 2 0 23 rest
        let (minutes, rest) ← takeField 2 0 59 (← takeChar ':' rest)
        let ahead : Int := hours * 60 + minutes
        pure (some (if c = '-' then -ahead else ahead), rest)
      found.getD (none, cs)
    else (none, cs)
  | [] => (none, [])

/-- The time of day that follows a date, if there is one, and by how much it is ahead. -/
def takeDayTime? (cs : List Char) : Option (Clock × Option Int × List Char) :=
  match cs with
  | c :: rest =>
    if c = 'T' ∨ c = 't' ∨ c = ' ' then
      (takeClock? rest).map fun (clock, rest) => (clock, takeAhead rest)
    else none
  | [] => none

/-- A date, if there is one: the year, the month, the day and the text behind it. -/
def takeDate? (cs : List Char) : Option (Nat × Nat × Nat × List Char) := do
  let (year, rest) ← takeField 4 0 9999 cs
  let (month, rest) ← takeField 2 1 12 (← takeChar '-' rest)
  let (day, rest) ← takeField 2 1 31 (← takeChar '-' rest)
  pure (year, month, day, rest)

/-- A date, a time or both, if there is one. The calendar has no year zero. -/
def readMoment? (cs : List Char) : Option (Reading Moment) :=
  match takeDate? cs with
  | some (year, month, day, rest) =>
    if year = 0 ∨ Time.daysInMonth year month < day then some (flawed .date cs)
    else
      match takeDayTime? rest with
      | some (clock, ahead, rest) => some (.ok (.dateTime year month day clock ahead, rest))
      | none => some (.ok (.date year month day, rest))
  | none => (takeClock? cs).map fun (clock, rest) => .ok (.time clock, rest)

end DocumentStore.Toml
