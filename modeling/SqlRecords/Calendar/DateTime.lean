import SqlRecords.Number.Integer

/-!
# Dates and times of day

Dates of the proleptic Gregorian calendar and times to the nanosecond. A leap second is kept as the
second before it with a fraction of one second or more. Clocks show one only behind second 59, as
second 60, but a time that is made by replacing its fraction may hold one behind any second.
-/

namespace SqlRecords

/-- Every fourth year is a leap year, but of the centuries only every fourth. -/
def isLeapYear (year : Int) : Bool :=
  year % 4 == 0 && (year % 100 != 0 || year % 400 == 0)

/-- The length of a month. -/
def daysInMonth (year : Int) (month : Nat) : Nat :=
  if month = 2 then (if isLeapYear year then 29 else 28)
  else if month = 4 ∨ month = 6 ∨ month = 9 ∨ month = 11 then 30
  else 31

/-- A day that the calendar has, in the years that a date can hold. -/
def Date.Valid (year : Int) (month day : Nat) : Prop :=
  (-262143 ≤ year ∧ year ≤ 262142) ∧ (1 ≤ month ∧ month ≤ 12) ∧
    (1 ≤ day ∧ day ≤ daysInMonth year month)

instance (year : Int) (month day : Nat) : Decidable (Date.Valid year month day) := by
  unfold Date.Valid; infer_instance

/-- A calendar date. -/
structure Date where
  year : Int
  month : Nat
  day : Nat
  valid : Date.Valid year month day
  deriving DecidableEq

/-- The nanoseconds of a second. -/
abbrev nanosPerSecond : Nat := 1000000000

/-- A time of day; a fraction of a second or more is a leap second. -/
structure Time where
  hour : Nat
  minute : Nat
  second : Nat
  nanos : Nat
  valid : hour < 24 ∧ minute < 60 ∧ second < 60 ∧ nanos < 2 * nanosPerSecond
  deriving DecidableEq

/-- A time on a date, without a time zone. -/
structure DateTime where
  date : Date
  time : Time
  deriving DecidableEq

namespace Date

/-- The date with these parts, if there is one. -/
def ofParts? (year : Int) (month day : Nat) : Option Date :=
  if h : Valid year month day then some ⟨year, month, day, h⟩ else none

/-- 1970-01-01. -/
def epoch : Date := ⟨1970, 1, 1, by decide⟩

instance : Inhabited Date := ⟨epoch⟩

/-- The day after. -/
def next? (d : Date) : Option Date :=
  (ofParts? d.year d.month (d.day + 1)).or <|
    (ofParts? d.year (d.month + 1) 1).or (ofParts? (d.year + 1) 1 1)

/-- The day before. -/
def previous? (d : Date) : Option Date :=
  if 1 < d.day then ofParts? d.year d.month (d.day - 1)
  else if 1 < d.month then ofParts? d.year (d.month - 1) (daysInMonth d.year (d.month - 1))
  else ofParts? (d.year - 1) 12 31

/-- A year has at least four digits, and a sign where four digits would not do. -/
def yearText (year : Int) : String :=
  if 0 ≤ year ∧ year ≤ 9999 then Text.padded 4 year.natAbs
  else (if year < 0 then "-" else "+") ++ Text.padded 4 year.natAbs

/-- The date as year, month and day with dashes. -/
def text (d : Date) : String :=
  yearText d.year ++ "-" ++ Text.padded 2 d.month ++ "-" ++ Text.padded 2 d.day

end Date

namespace Time

/-- Midnight. -/
def midnight : Time := ⟨0, 0, 0, 0, by decide⟩

instance : Inhabited Time := ⟨midnight⟩

/-- The time with these parts, where second 60 is the leap second. No other one can be given. -/
def ofClock? (hour minute second nanos : Nat) : Option Time :=
  let leap := decide (second = 60)
  let second := if leap then 59 else second
  let nanos := if leap then nanos + nanosPerSecond else nanos
  if h : hour < 24 ∧ minute < 60 ∧ second < 60 ∧ nanos < 2 * nanosPerSecond ∧
      (nanosPerSecond ≤ nanos → second = 59) then
    some ⟨hour, minute, second, nanos, h.1, h.2.1, h.2.2.1, h.2.2.2.1⟩
  else none

/-- The second on the clock; a leap second counts as the next one, behind second 59 as second 60. -/
def clockSecond (t : Time) : Nat :=
  if nanosPerSecond ≤ t.nanos then t.second + 1 else t.second

/-- The fraction of the second on the clock, in nanoseconds. -/
def fraction (t : Time) : Nat := t.nanos % nanosPerSecond

/-- Hours, minutes and seconds with colons. -/
def text (t : Time) : String :=
  Text.padded 2 t.hour ++ ":" ++ Text.padded 2 t.minute ++ ":" ++ Text.padded 2 t.clockSecond

/-- The fraction with as many groups of three digits as it needs. -/
def fractionText (t : Time) : String :=
  let f := t.fraction
  if f = 0 then ""
  else if f % 1000000 = 0 then "." ++ Text.padded 3 (f / 1000000)
  else if f % 1000 = 0 then "." ++ Text.padded 6 (f / 1000)
  else "." ++ Text.padded 9 f

end Time

namespace DateTime

instance : Inhabited DateTime := ⟨⟨Date.epoch, Time.midnight⟩⟩

/-- The start of a date. -/
def ofDate (d : Date) : DateTime := ⟨d, Time.midnight⟩

/-- Date and time with a blank between; the fraction is left out. -/
def text (t : DateTime) : String := t.date.text ++ " " ++ t.time.text

/-- Date and time with a `T` between, the fraction included. -/
def isoText (t : DateTime) : String :=
  t.date.text ++ "T" ++ t.time.text ++ t.time.fractionText

/-- The time whose local time at `offset` minutes east is `t`. -/
def toUtc? (t : DateTime) (offset : Int) : Option DateTime := do
  let minutes : Int := t.time.hour * 60 + t.time.minute - offset
  let date ←
    if minutes < 0 then t.date.previous?
    else if 1440 ≤ minutes then t.date.next?
    else some t.date
  let inDay := (minutes % 1440).toNat
  if h : inDay / 60 < 24 ∧ inDay % 60 < 60 then
    some ⟨date, ⟨inDay / 60, inDay % 60, t.time.second, t.time.nanos,
      h.1, h.2, t.time.valid.2.2⟩⟩
  else none

end DateTime

end SqlRecords
