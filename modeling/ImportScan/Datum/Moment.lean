import ImportScan.Text.Basic

/-! # Moments

    Calendar dates and times, which a configuration file may hold as plain scalars.
-/

namespace ImportScan

/-- A time of day, with an offset from UTC in minutes when one was written. -/
structure TimeOfDay where
  /-- Hours, below 24. -/
  hour : Nat
  /-- Minutes, below 60. -/
  minute : Nat
  /-- Seconds, below 60. -/
  second : Nat
  /-- Millionths of a second. -/
  micro : Nat
  /-- Minutes ahead of UTC; absent when no zone was written. -/
  offset : Option Int
deriving Repr, DecidableEq

/-- A date, with a time of day when one was written. -/
structure Moment where
  /-- The year. -/
  year : Nat
  /-- The month, from 1. -/
  month : Nat
  /-- The day of the month, from 1. -/
  day : Nat
  /-- The time of day. -/
  time : Option TimeOfDay
deriving Repr, DecidableEq

namespace Moment

/-- A number padded with zeros to a width. -/
def padded (width n : Nat) : Text :=
  let digits := Text.ofNat n
  List.replicate (width - digits.length) (CodePoint.ofChar '0') ++ digits

/-- An offset as hours and minutes with a sign. -/
def offsetText (minutes : Int) : Text :=
  Text.ofString (if minutes < 0 then "-" else "+") ++ padded 2 (minutes.natAbs / 60)
    ++ Text.ofString ":" ++ padded 2 (minutes.natAbs % 60)

/-- The date and time as text. -/
def text (m : Moment) : Text :=
  let colon := Text.ofString ":"
  let dash := Text.ofString "-"
  let date := padded 4 m.year ++ dash ++ padded 2 m.month ++ dash ++ padded 2 m.day
  match m.time with
  | none => date
  | some t =>
    let fraction := if t.micro = 0 then [] else Text.ofString "." ++ padded 6 t.micro
    date ++ Text.ofString " " ++ padded 2 t.hour ++ colon ++ padded 2 t.minute ++ colon
      ++ padded 2 t.second ++ fraction ++ (t.offset.map offsetText).getD []

/-- A span of minutes as whole days and the seconds that remain. -/
def spanText (minutes : Int) : Text :=
  let days := Int.fdiv (minutes * 60) 86400
  let seconds := Int.fmod (minutes * 60) 86400
  let parts :=
    (if days = 0 then [] else [Text.ofString "days=" ++ Text.ofInt days])
      ++ (if seconds = 0 then [] else [Text.ofString "seconds=" ++ Text.ofInt seconds])
  Text.ofString "datetime.timedelta("
    ++ (if parts.isEmpty then Text.ofString "0" else Text.join (Text.ofString ", ") parts)
    ++ Text.ofString ")"

/-- The fields of the date and time, as a value inside a collection is shown. -/
def fields (m : Moment) : Text :=
  let list (ns : List Nat) : Text := Text.join (Text.ofString ", ") (ns.map Text.ofNat)
  match m.time with
  | none => Text.ofString "datetime.date(" ++ list [m.year, m.month, m.day] ++ Text.ofString ")"
  | some t =>
    let seconds := if t.second = 0 ∧ t.micro = 0 then [] else [t.second]
    let micros := if t.micro = 0 then [] else [t.micro]
    let zone : Text :=
      match t.offset with
      | none => []
      | some 0 => Text.ofString ", tzinfo=datetime.timezone.utc"
      | some minutes =>
        Text.ofString ", tzinfo=datetime.timezone(" ++ spanText minutes ++ Text.ofString ")"
    Text.ofString "datetime.datetime("
      ++ list ([m.year, m.month, m.day, t.hour, t.minute] ++ seconds ++ micros)
      ++ zone ++ Text.ofString ")"

/-- How many days a month has. -/
def daysIn (year month : Nat) : Nat :=
  if month = 2 then
    if year % 4 = 0 ∧ (year % 100 ≠ 0 ∨ year % 400 = 0) then 29 else 28
  else if month = 4 ∨ month = 6 ∨ month = 9 ∨ month = 11 then 30
  else 31

/-- What is wrong with the offset of a time, if anything is. -/
def offsetProblem? (offset : Option Int) : Option Text :=
  match offset with
  | none => none
  | some minutes =>
    if minutes.natAbs < 1440 then none
    else some (Text.ofString
        "offset must be a timedelta strictly between -timedelta(hours=24) and timedelta(hours=24), not "
      ++ spanText minutes ++ Text.ofString ".")

/-- What is wrong with a date, if anything is. -/
def dateProblem? (m : Moment) : Option Text :=
  if m.year = 0 then some (Text.ofString "year 0 is out of range")
  else if m.month = 0 ∨ 12 < m.month then some (Text.ofString "month must be in 1..12")
  else if m.day = 0 ∨ daysIn m.year m.month < m.day then
    some (Text.ofString "day is out of range for month")
  else none

/-- What is wrong with a time of day, if anything is. -/
def clockProblem? (t : TimeOfDay) : Option Text :=
  if 23 < t.hour then some (Text.ofString "hour must be in 0..23")
  else if 59 < t.minute then some (Text.ofString "minute must be in 0..59")
  else if 59 < t.second then some (Text.ofString "second must be in 0..59")
  else none

/-- Why the calendar does not have the moment, if it does not. -/
def problem? (m : Moment) : Option Text :=
  match m.time with
  | none => m.dateProblem?
  | some t => (offsetProblem? t.offset).or (m.dateProblem?.or (clockProblem? t))

end Moment

end ImportScan
