/-!
# Dates and times

Calendar dates and points in time, with their ISO 8601 texts. `Date.make?` and
`Timestamp.make?` accept exactly what exists in the Gregorian calendar and say which part of the
rest is out of range.
-/

namespace MarkdownTree

/-- The decimal digits of `n`, at least `width` of them. -/
def padNat (width n : Nat) : String :=
  let ds := Nat.toDigits 10 n
  String.ofList (List.replicate (width - ds.length) '0' ++ ds)

/-- A calendar date. -/
structure Date where
  year : Nat
  month : Nat
  day : Nat
  deriving DecidableEq, Inhabited

/-- A point in time: date, time of day and, if known, the offset from universal time in
minutes. -/
structure Timestamp where
  date : Date
  hour : Nat
  minute : Nat
  second : Nat
  microsecond : Nat
  offset : Option Int
  deriving DecidableEq, Inhabited

/-- The part of a date or time that is out of range. -/
inductive CalendarError where
  | year (value : Nat)
  | month
  | day
  | hour
  | minute
  | second
  /-- The offset, in minutes, is that of a whole day at least. -/
  | offset (minutes : Int)
  deriving DecidableEq

/-- The text of a calendar error. -/
def CalendarError.message : CalendarError → String
  | .year value => s!"year {value} is out of range"
  | .month => "month must be in 1..12"
  | .day => "day is out of range for month"
  | .hour => "hour must be in 0..23"
  | .minute => "minute must be in 0..59"
  | .second => "second must be in 0..59"
  | .offset minutes =>
    let days := minutes / 1440
    let seconds := minutes % 1440 * 60
    "offset must be a timedelta strictly between -timedelta(hours=24) and timedelta(hours=24), " ++
      s!"not datetime.timedelta(days={days}" ++
      (if seconds = 0 then "" else s!", seconds={seconds}") ++ ")."

namespace Date

/-- Every fourth year, of the centuries only every fourth one. -/
def isLeap (year : Nat) : Bool := year % 4 == 0 && (year % 100 != 0 || year % 400 == 0)

/-- The number of days of a month. -/
def daysIn (year month : Nat) : Nat :=
  if month = 2 then if isLeap year then 29 else 28
  else if month = 4 ∨ month = 6 ∨ month = 9 ∨ month = 11 then 30
  else 31

/-- The date with the given parts, if there is one. -/
def make? (year month day : Nat) : Except CalendarError Date :=
  if year = 0 ∨ 9999 < year then .error (.year year)
  else if month = 0 ∨ 12 < month then .error .month
  else if day = 0 ∨ daysIn year month < day then .error .day
  else .ok ⟨year, month, day⟩

/-- The text `2024-01-02`. -/
def text (d : Date) : String :=
  padNat 4 d.year ++ "-" ++ padNat 2 d.month ++ "-" ++ padNat 2 d.day

end Date

namespace Timestamp

/-- The point in time with the given parts, if there is one. -/
def make? (year month day hour minute second microsecond : Nat) (offset : Option Int) :
    Except CalendarError Timestamp := do
  if let some o := offset then
    if 1440 ≤ o.natAbs then throw (.offset o)
  let date ← Date.make? year month day
  if 23 < hour then throw .hour
  if 59 < minute then throw .minute
  if 59 < second then throw .second
  return ⟨date, hour, minute, second, microsecond, offset⟩

/-- The text of an offset: `Z` for none, else sign, hours and minutes. -/
def offsetText (o : Int) : String :=
  if o = 0 then "Z"
  else (if o < 0 then "-" else "+") ++ padNat 2 (o.natAbs / 60) ++ ":" ++ padNat 2 (o.natAbs % 60)

/-- The text `2024-01-02T03:04:05`, with a fraction and an offset if there are any. -/
def text (t : Timestamp) : String :=
  t.date.text ++ "T" ++ padNat 2 t.hour ++ ":" ++ padNat 2 t.minute ++ ":" ++ padNat 2 t.second ++
    (if t.microsecond = 0 then "" else "." ++ padNat 6 t.microsecond) ++
    (t.offset.map offsetText).getD ""

/-- The text `2024-01-02 03:04:05`, with a fraction and an offset if there are any; universal time
has an offset like all others. -/
def plainText (t : Timestamp) : String :=
  t.date.text ++ " " ++ padNat 2 t.hour ++ ":" ++ padNat 2 t.minute ++ ":" ++ padNat 2 t.second ++
    (if t.microsecond = 0 then "" else "." ++ padNat 6 t.microsecond) ++
    (t.offset.map fun o => if o = 0 then "+00:00" else offsetText o).getD ""

end Timestamp

end MarkdownTree
