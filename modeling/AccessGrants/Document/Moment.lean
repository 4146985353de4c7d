import AccessGrants.Text.Basic

/-!
# Days and moments

A day of the calendar, and a time of a day on a clock whose offset may be known.

* `Day` and `Moment` have them; `Day.monthLength` knows the leap years, `Day.ordinal` counts days.
* `Moment.isSame` says when two moments are one: by their clocks if no offset is known, by universal
  time if both are.
* `Day.display` and `Moment.display` are their wordings in a message, `Moment.offsetText` that of an
  offset.
-/

namespace AccessGrants

/-- A day of the calendar. -/
structure Day where
  year : Nat
  month : Nat
  day : Nat
  deriving DecidableEq

/-- A time of a day. -/
structure Moment where
  day : Day
  hour : Nat
  minute : Nat
  second : Nat
  microsecond : Nat
  /-- How many minutes the clock is ahead of universal time, if that is known. -/
  offset : Option Int
  deriving DecidableEq

namespace Day

/-- Each fourth year is a leap year, of full centuries only each fourth. -/
def isLeapYear (year : Nat) : Bool :=
  year % 4 = 0 && (year % 100 ≠ 0 || year % 400 = 0)

/-- How many days a month has. -/
def monthLength (year month : Nat) : Nat :=
  if month = 2 then (if isLeapYear year then 29 else 28)
  else if month ∈ [4, 6, 9, 11] then 30
  else 31

/-- The number of a day, counted from the first day of the first year. -/
def ordinal (d : Day) : Nat :=
  let before := d.year - 1
  365 * before + before / 4 - before / 100 + before / 400 +
    ((List.range d.month).drop 1 |>.map (monthLength d.year)).foldl (· + ·) 0 + d.day

/-- Numbers with commas between them. -/
def listed (numbers : List Nat) : Text :=
  Text.join ", ".toList (numbers.map fun n => (toString n).toList)

/-- A day in a message. -/
def display (d : Day) : Text :=
  "datetime.date(".toList ++ listed [d.year, d.month, d.day] ++ [')']

end Day

namespace Moment

/-- The microseconds of universal time from the day before the first one. -/
def instant (m : Moment) (offset : Int) : Int :=
  let minutes : Int := (m.day.ordinal * 24 + m.hour) * 60 + m.minute - offset
  (minutes * 60 + m.second) * 1000000 + m.microsecond

/-- Two moments are the same. One with a known offset never is one without. -/
def isSame (a b : Moment) : Bool :=
  match a.offset, b.offset with
  | some x, some y => a.instant x == b.instant y
  | none, none => a == b
  | _, _ => false

/-- An offset, in days and in seconds of a day; those that are zero are left out. -/
def offsetText (minutes : Int) : Text :=
  let days := minutes / 1440
  let seconds := minutes % 1440 * 60
  let part (name : Text) (n : Int) : List Text :=
    if n = 0 then [] else [name ++ '=' :: (toString n).toList]
  "datetime.timedelta(".toList ++
    Text.join ", ".toList (part "days".toList days ++ part "seconds".toList seconds) ++ [')']

/-- A known offset as part of a moment. -/
def zoneText (offset : Int) : Text :=
  ", tzinfo=".toList ++
    if offset = 0 then "datetime.timezone.utc".toList
    else "datetime.timezone(".toList ++ offsetText offset ++ [')']

/-- A moment in a message; seconds and microseconds that are zero are left out at the end. -/
def display (m : Moment) : Text :=
  let fine :=
    if m.microsecond ≠ 0 then [m.second, m.microsecond]
    else if m.second ≠ 0 then [m.second]
    else []
  "datetime.datetime(".toList ++
    Day.listed ([m.day.year, m.day.month, m.day.day, m.hour, m.minute] ++ fine) ++
    (m.offset.map zoneText).getD [] ++ [')']

end Moment

end AccessGrants
