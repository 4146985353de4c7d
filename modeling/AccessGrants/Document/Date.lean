import AccessGrants.Document.Fault

/-!
# Written dates

A date has four, two and two digits. With a time, month and day may have one digit; the time may
have a fraction of a second and an offset.

* `Date.day?` and `Date.moment?` say whether a text is written like a date, and read it.
-/

namespace AccessGrants

namespace Date

/-! ## Parts -/

/-- The number that decimal digits write. -/
def number (digits : Text) : Nat :=
  digits.foldl (fun n c => 10 * n + (c.toNat - 48)) 0

/-- Reads exactly `n` digits. -/
def digits (n : Nat) (t : Text) : Option (Nat × Text) :=
  if t.length < n ∨ ¬ (t.take n).all Char.isDigit then none
  else some (number (t.take n), t.drop n)

/-- Reads one or two digits. -/
def oneOrTwoDigits (t : Text) : Option (Nat × Text) :=
  (digits 2 t).or (digits 1 t)

/-- Reads a character. -/
def char (c : Char) : Text → Option Text
  | [] => none
  | d :: r => if d = c then some r else none

/-- The text without blanks and tabs at its start. -/
def skipBlanks (t : Text) : Text :=
  t.dropWhile fun c => c == ' ' || c == '\t'

/-- Reads what parts the date from the time: a letter, or blanks and tabs. -/
def gap : Text → Option Text
  | [] => none
  | c :: r =>
    if c = 'T' ∨ c = 't' then some r
    else if c = ' ' ∨ c = '\t' then some (skipBlanks r)
    else none

/-- The microseconds of a fraction of a second; further digits do not count. -/
def microseconds (fraction : Text) : Nat :=
  number ((fraction ++ List.replicate 6 '0').take 6)

/-- The minutes of an offset: hours, and perhaps minutes after a colon. -/
def offset? (t : Text) : Option Nat := do
  let (hours, rest) ← oneOrTwoDigits t
  if rest = [] then return hours * 60
  let (minutes, rest) ← digits 2 (← char ':' rest)
  if rest = [] then return hours * 60 + minutes else none

/-- The offset at the end of a date, with blanks before it; none if nothing is left. -/
def zone? (t : Text) : Option (Option Int) :=
  match skipBlanks t with
  | [] => if t = [] then some none else none
  | ['Z'] => some (some 0)
  | '+' :: r => (offset? r).map fun minutes => some (minutes : Int)
  | '-' :: r => (offset? r).map fun minutes => some (-(minutes : Int))
  | _ => none

/-! ## Checks -/

/-- A day of the calendar. The years start with one. -/
def checkDay (d : Day) : Except ValueFault Day :=
  if d.year = 0 then .error (.year 0)
  else if d.month = 0 ∨ 12 < d.month then .error .month
  else if d.day = 0 ∨ Day.monthLength d.year d.month < d.day then .error .day
  else .ok d

/-- A moment of a day of the calendar, with an offset of less than a day. -/
def checkMoment (m : Moment) : Except ValueFault Moment :=
  match m.offset.filter fun minutes => decide (1440 ≤ minutes.natAbs) with
  | some minutes => .error (.offset minutes)
  | none => do
    let _ ← checkDay m.day
    if 23 < m.hour then throw .hour
    else if 59 < m.minute then throw .minute
    else if 59 < m.second then throw .second
    else return m

/-! ## Dates -/

/-- A date without a time. -/
def day? (t : Text) : Option (Except ValueFault Day) := do
  let (year, rest) ← digits 4 t
  let (month, rest) ← digits 2 (← char '-' rest)
  let (day, rest) ← digits 2 (← char '-' rest)
  if rest = [] then return checkDay ⟨year, month, day⟩ else none

/-- A date with a time. -/
def moment? (t : Text) : Option (Except ValueFault Moment) := do
  let (year, rest) ← digits 4 t
  let (month, rest) ← oneOrTwoDigits (← char '-' rest)
  let (day, rest) ← oneOrTwoDigits (← char '-' rest)
  let (hour, rest) ← oneOrTwoDigits (← gap rest)
  let (minute, rest) ← digits 2 (← char ':' rest)
  let (second, rest) ← digits 2 (← char ':' rest)
  let (fraction, rest) :=
    match rest with
    | '.' :: rest => (rest.takeWhile Char.isDigit, rest.dropWhile Char.isDigit)
    | rest => ([], rest)
  let offset ← zone? rest
  return checkMoment ⟨⟨year, month, day⟩, hour, minute, second, microseconds fraction, offset⟩

end Date

end AccessGrants
