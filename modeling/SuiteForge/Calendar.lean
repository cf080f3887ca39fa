/-
# Dates and moments

A date of the proleptic calendar, years 1 to 9999, and a moment: a date, a time of
day to the microsecond and, if known, the offset from universal time in minutes.
-/

import SuiteForge.Text

namespace SuiteForge

/-- Why fields make no date or moment. -/
inductive CalendarFault where
  | year (n : Nat)
  | month
  | day
  | hour
  | minute
  | second
  | offset (negative : Bool) (minutes : Nat)
  deriving DecidableEq

structure Date where
  year : Nat
  month : Nat
  day : Nat
  deriving DecidableEq, Inhabited

structure Moment where
  date : Date
  hour : Nat
  minute : Nat
  second : Nat
  microsecond : Nat
  offset : Option Int
  deriving DecidableEq, Inhabited

namespace Date

def isLeap (year : Nat) : Bool := year % 4 == 0 && (year % 100 != 0 || year % 400 == 0)

def daysIn (year : Nat) : Nat → Nat
  | 2 => if isLeap year then 29 else 28
  | 4 | 6 | 9 | 11 => 30
  | _ => 31

/-- The date of three fields. -/
def of (year month day : Nat) : Except CalendarFault Date :=
  if year < 1 ∨ 9999 < year then .error (.year year)
  else if month < 1 ∨ 12 < month then .error .month
  else if day < 1 ∨ daysIn year month < day then .error .day
  else .ok ⟨year, month, day⟩

/-- Days since the end of the year 0. -/
def ordinal (d : Date) : Nat :=
  let y := d.year - 1
  let before := (List.range (d.month - 1)).foldl (fun n m => n + daysIn d.year (m + 1)) 0
  y * 365 + y / 4 - y / 100 + y / 400 + before + d.day

end Date

/-- A number with zeros in front, up to a width. -/
def padded (width n : Nat) : Text :=
  let digits := Nat.toDigits 10 n
  Text.ofChars (List.replicate (width - digits.length) '0' ++ digits)

/-- The date as `2020-01-31`. -/
def Date.display (d : Date) : Text :=
  padded 4 d.year ++ "-" ++ padded 2 d.month ++ "-" ++ padded 2 d.day

namespace Moment

/-- The moment of its fields; an offset is given by its sign and its minutes. -/
def of (year month day hour minute second microsecond : Nat) (offset : Option (Bool × Nat)) :
    Except CalendarFault Moment := do
  let offset? : Option Int ← match offset with
    | none => .ok none
    | some (negative, minutes) =>
      if 24 * 60 ≤ minutes then .error (.offset negative minutes)
      else .ok (some (if negative then -(minutes : Int) else minutes))
  let date ← Date.of year month day
  if 23 < hour then .error .hour
  else if 59 < minute then .error .minute
  else if 59 < second then .error .second
  else .ok ⟨date, hour, minute, second, microsecond, offset?⟩

/-- Microseconds of universal time since the end of the year 0, the offset taken as zero if it is
not known. -/
def instant (m : Moment) : Int :=
  let minutes : Int := m.date.ordinal * (24 * 60) + m.hour * 60 + m.minute - m.offset.getD 0
  (minutes * 60 + m.second) * 1000000 + m.microsecond

/-- The moment as `2001-12-14 21:59:43.100000-05:00`. -/
def display (m : Moment) : Text :=
  let time : Text := padded 2 m.hour ++ ":" ++ padded 2 m.minute ++ ":" ++ padded 2 m.second
  let fraction : Text := if m.microsecond = 0 then [] else "." ++ padded 6 m.microsecond
  let offset : Text := match m.offset with
    | none => []
    | some o =>
      (if o < 0 then "-" else "+") ++ padded 2 (o.natAbs / 60) ++ ":" ++ padded 2 (o.natAbs % 60)
  m.date.display ++ " " ++ time ++ fraction ++ offset

end Moment

/-- A span of minutes, as days and the seconds left of one day. -/
def displaySpan (minutes : Int) : Text :=
  let days := Int.fdiv minutes (24 * 60)
  let seconds := Int.fmod minutes (24 * 60) * 60
  let parts : List Text :=
    (if days = 0 then [] else [("days=" : Text) ++ Text.ofInt days]) ++
    (if seconds = 0 then [] else [("seconds=" : Text) ++ Text.ofInt seconds])
  "datetime.timedelta(" ++ (if parts.isEmpty then ("0" : Text) else Text.join ", " parts) ++ ")"

namespace CalendarFault

def message : CalendarFault → Text
  | year n => "year " ++ Text.ofNat n ++ " is out of range"
  | month => "month must be in 1..12"
  | day => "day is out of range for month"
  | hour => "hour must be in 0..23"
  | minute => "minute must be in 0..59"
  | second => "second must be in 0..59"
  | offset negative minutes =>
    "offset must be a timedelta strictly between -timedelta(hours=24) " ++
      "and timedelta(hours=24), not " ++
      displaySpan (if negative then -(minutes : Int) else minutes) ++ "."

end CalendarFault

/-- The fields of a date as they are shown inside a collection. -/
def Date.quoted (d : Date) : Text :=
  "datetime.date(" ++ Text.join ", " ([d.year, d.month, d.day].map Text.ofNat) ++ ")"

/-- The fields of a moment as they are shown inside a collection: seconds and microseconds only as
far as they are not zero. -/
def Moment.quoted (m : Moment) : Text :=
  let fields := [m.date.year, m.date.month, m.date.day, m.hour, m.minute]
  let fine :=
    if m.microsecond ≠ 0 then [m.second, m.microsecond]
    else if m.second ≠ 0 then [m.second] else []
  let zone : List Text := match m.offset with
    | none => []
    | some 0 => ["tzinfo=datetime.timezone.utc"]
    | some o => ["tzinfo=datetime.timezone(" ++ displaySpan o ++ ")"]
  "datetime.datetime(" ++ Text.join ", " ((fields ++ fine).map Text.ofNat ++ zone) ++ ")"

end SuiteForge
