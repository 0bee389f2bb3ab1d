import Airlight.Document.Misspelling

/-!
# Days and moments

A `Day` is a day of the calendar, a `Moment` a time of a day to the microsecond. The clock of a
moment may be known by its offset from universal time; only then is the moment an instant that can
be compared with others across offsets.
-/

namespace Airlight

/-- A day of the calendar. -/
structure Day where
  year : Nat
  month : Nat
  day : Nat
  deriving DecidableEq, Repr

namespace Day

/-- Whether a year has a leap day. -/
def isLeap (year : Nat) : Bool := year % 4 = 0 && (year % 100 ≠ 0 || year % 400 = 0)

/-- The number of days of a month. -/
def lengthOfMonth (year month : Nat) : Nat :=
  if month = 2 then (if isLeap year then 29 else 28)
  else if month = 4 ∨ month = 6 ∨ month = 9 ∨ month = 11 then 30 else 31

/-- The day with the given numbers, if the calendar has it. -/
def ofNumbers (year month day : Nat) : Except Misspelling Day :=
  if year = 0 then .error (.year year)
  else if month = 0 ∨ 12 < month then .error .month
  else if day = 0 ∨ lengthOfMonth year month < day then .error .day
  else .ok ⟨year, month, day⟩

/-- How many days of the calendar come before a day. -/
def ordinal (d : Day) : Nat :=
  let y := d.year - 1
  let years := 365 * y + y / 4 - y / 100 + y / 400
  let months := (List.range (d.month - 1)).foldl (fun n m => n + lengthOfMonth d.year (m + 1)) 0
  years + months + (d.day - 1)

/-- The form in which messages show a day. -/
def literal (d : Day) : String :=
  "datetime.date(" ++ ", ".intercalate ([d.year, d.month, d.day].map toString) ++ ")"

end Day

/-- A time of a day. -/
structure Moment where
  day : Day
  hour : Nat
  minute : Nat
  second : Nat
  microsecond : Nat
  /-- How many minutes the clock is ahead of universal time, if that is known. -/
  offset : Option Int
  deriving DecidableEq, Repr

namespace Moment

/-- The moment, if the calendar has its day, the clock its time, and the clock is less than a day
off. -/
def checked (m : Moment) : Except Misspelling Moment := do
  if let some minutes := m.offset then
    if 24 * 60 ≤ minutes.natAbs then throw (.offset minutes)
  let day ← Day.ofNumbers m.day.year m.day.month m.day.day
  if 24 ≤ m.hour then throw .hour
  if 60 ≤ m.minute then throw .minute
  if 60 ≤ m.second then throw .second
  return { m with day }

/-- The distance in microseconds from the beginning of the calendar. -/
def instant (m : Moment) : Int :=
  let minutes : Int := ((m.day.ordinal * 24 + m.hour) * 60 + m.minute : Nat) - m.offset.getD 0
  (minutes * 60 + m.second) * 1000000 + m.microsecond

/-- Whether two moments are the same: equal instants of clocks that are both known or both not. -/
def same (m n : Moment) : Bool := m.offset.isSome = n.offset.isSome && m.instant = n.instant

/-- The form in which messages show a span of minutes. -/
def spanLiteral (minutes : Int) : String :=
  let part (name : String) (n : Int) : List String :=
    if n = 0 then [] else [name ++ "=" ++ toString n]
  "datetime.timedelta(" ++ ", ".intercalate
    (part "days" (minutes.fdiv (24 * 60)) ++ part "seconds" (minutes.fmod (24 * 60) * 60)) ++ ")"

/-- The form in which messages show the offset of a clock. -/
def offsetLiteral (minutes : Int) : String :=
  if minutes = 0 then "datetime.timezone.utc"
  else "datetime.timezone(" ++ spanLiteral minutes ++ ")"

/-- The form in which messages show a moment. Seconds and microseconds are left out at the end when
they are zero. -/
def literal (m : Moment) : String :=
  let fraction := if m.microsecond = 0 then [] else [m.microsecond]
  let seconds := if m.second = 0 ∧ m.microsecond = 0 then [] else m.second :: fraction
  let numbers := [m.day.year, m.day.month, m.day.day, m.hour, m.minute] ++ seconds
  let offset := match m.offset with
    | none => []
    | some minutes => ["tzinfo=" ++ offsetLiteral minutes]
  "datetime.datetime(" ++ ", ".intercalate (numbers.map toString ++ offset) ++ ")"

end Moment

end Airlight
