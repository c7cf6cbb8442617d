import ChartData.Calendar.Instant
import ChartData.Text.Digits

/-!
# Patterns of dates and times

An instant is written by a pattern: a list of calendar fields and the characters between them. Every
field but the year has two digits. A year from 0 to 9999 has four; any other has its sign and at
least four digits, so `10000` is `+10000` and `-1` is `-0001`. The second is the one that a clock
shows, which is 60 in a leap second at the end of a minute.

A pattern also has a text of its own, `Pattern.specifier`, with a percent sign and a letter for each
field – the form in which charts are told how to label an axis.
-/

namespace ChartData

/-- **A field of a pattern.** -/
inductive Field where
  /-- The year. -/
  | year
  /-- The month. -/
  | month
  /-- The day of the month. -/
  | day
  /-- The hour of the day. -/
  | hour
  /-- The minute of the hour. -/
  | minute
  /-- The second of the minute, as a clock shows it. -/
  | second
  /-- A character that stands for itself. -/
  | literal (c : Char)
deriving DecidableEq, Repr

/-- A list of fields. -/
abbrev Pattern := List Field

/-- The digits of a year, with a sign unless they are the usual four. -/
def yearChars (year : Int) : List Char :=
  if 0 ≤ year ∧ year ≤ 9999 then zeroPadded 4 year.toNat
  else (if year < 0 then '-' else '+') :: zeroPadded 4 year.natAbs

namespace Field

/-- The text of a field at an instant. -/
def chars (t : Instant) : Field → List Char
  | year => yearChars t.date.year
  | month => zeroPadded 2 t.date.month
  | day => zeroPadded 2 t.date.day
  | hour => zeroPadded 2 t.hour
  | minute => zeroPadded 2 t.minute
  | second => zeroPadded 2 t.shownSecond
  | literal c => [c]

/-- The specifier of a field. -/
def specifier : Field → List Char
  | year => ['%', 'Y']
  | month => ['%', 'm']
  | day => ['%', 'd']
  | hour => ['%', 'H']
  | minute => ['%', 'M']
  | second => ['%', 'S']
  | literal c => [c]

end Field

namespace Pattern

/-- **The text of an instant by a pattern.** -/
def chars (p : Pattern) (t : Instant) : List Char := p.flatMap (Field.chars t)

/-- The text of an instant by a pattern, as a string. -/
def format (p : Pattern) (t : Instant) : String := String.ofList (p.chars t)

/-- The text of the pattern itself. -/
def specifier (p : Pattern) : String := String.ofList (p.flatMap Field.specifier)

/-- A date: `2024-01-31`. -/
def isoDate : Pattern := [.year, .literal '-', .month, .literal '-', .day]

/-- A time of day: `23:59:59`. -/
def clock : Pattern := [.hour, .literal ':', .minute, .literal ':', .second]

/-- A date and a time with a blank between them, the form in which the store takes bounds. -/
def timestamp : Pattern := isoDate ++ .literal ' ' :: clock

/-- A date and a time joined by a `T` and marked as UTC. -/
def utc : Pattern := isoDate ++ .literal 'T' :: clock ++ [.literal 'Z']

end Pattern

end ChartData
