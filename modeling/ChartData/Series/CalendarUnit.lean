import ChartData.Calendar.Pattern
import ChartData.Text.Blank

/-!
# Calendar units

A series has one value for each minute, hour or day. In UTC all three have a fixed length, so which
unit an instant falls in is a division: `ordinal` numbers the units, unit 0 beginning with 1970, and
`floor` is the beginning of the unit. Both round towards the past, before 1970 as after it.

`units` lists the beginnings of the units from one instant through another.
-/

namespace ChartData

/-- **The unit of a series.** -/
inductive CalendarUnit where
  /-- One value a minute. -/
  | minute
  /-- One value an hour. -/
  | hour
  /-- One value a day. -/
  | day
deriving DecidableEq, Repr

namespace CalendarUnit

/-- A series has one value a day unless told otherwise. -/
instance : Inhabited CalendarUnit := ⟨day⟩

/-- The name of a unit. -/
def name : CalendarUnit → String
  | minute => "minute"
  | hour => "hour"
  | day => "day"

/-- The unit with a name. -/
def ofName? (name : String) : Option CalendarUnit :=
  if name = "minute" then some minute
  else if name = "hour" then some hour
  else if name = "day" then some day
  else none

/-- A name names the unit it is the name of. -/
@[simp] theorem ofName?_name (u : CalendarUnit) : ofName? u.name = some u := by
  cases u <;> rfl

/-- **The unit that a word names**, blanks and case set aside; the word without them where it
names none. -/
def read (word : String) : Except String CalendarUnit :=
  let plain := String.ofList ((trimmed word.toList).map Char.toLower)
  match ofName? plain with
  | some u => .ok u
  | none => .error plain

/-- What is said of a word that names no unit. -/
def unknownMessage (word : String) : String :=
  "unknown granularity `" ++ word ++ "` (expected day, hour, or minute)"

/-- **The length of a unit in seconds.** -/
def seconds : CalendarUnit → Int
  | minute => 60
  | hour => 3600
  | day => 86400

/-- The length of a unit in nanoseconds. -/
def ticks (u : CalendarUnit) : Int := u.seconds * 1000000000

/-- No unit is empty. -/
theorem seconds_pos (u : CalendarUnit) : 0 < u.seconds := by cases u <;> decide

/-- A unit has a second at least. -/
theorem le_ticks (u : CalendarUnit) : 1000000000 ≤ u.ticks := by cases u <;> decide

/-- A unit is a whole part of a day. -/
theorem seconds_dvd (u : CalendarUnit) : u.seconds ∣ secondsPerDay := by
  cases u <;> decide

/-- The first representable second begins a unit. -/
theorem firstSecond_emod (u : CalendarUnit) : firstSecond % u.seconds = 0 := by
  cases u <;> decide

/-- **The number of the unit that an instant falls in.** -/
def ordinal (u : CalendarUnit) (t : Instant) : Int := t.seconds / u.seconds

/-- The beginning of a unit is not before the first representable second. -/
theorem firstSecond_le_sub (u : CalendarUnit) (t : Instant) :
    firstSecond ≤ t.seconds - t.seconds % u.seconds := by
  have h₀ := u.firstSecond_emod
  have h₁ := t.first_le
  cases u <;> simp only [seconds] at * <;> omega

theorem sub_emod_le_lastSecond (u : CalendarUnit) (t : Instant) :
    t.seconds - t.seconds % u.seconds ≤ lastSecond := by
  have := Int.emod_nonneg t.seconds (Int.ne_of_gt u.seconds_pos)
  have := t.le_last
  omega

/-- **The beginning of the unit that an instant falls in.** -/
def floor (u : CalendarUnit) (t : Instant) : Instant where
  seconds := t.seconds - t.seconds % u.seconds
  nanos := 0
  first_le := u.firstSecond_le_sub t
  le_last := u.sub_emod_le_lastSecond t
  nanos_lt := Nat.succ_pos _

/-- The pattern that labels a unit: its fields down to the length of it. -/
def labelPattern : CalendarUnit → Pattern
  | day => Pattern.isoDate
  | hour =>
    Pattern.isoDate ++
      [.literal 'T', .hour, .literal ':', .literal '0', .literal '0', .literal 'Z']
  | minute => Pattern.isoDate ++ [.literal 'T', .hour, .literal ':', .minute, .literal 'Z']

/-- **The label of the unit that an instant falls in.** -/
def label (u : CalendarUnit) (t : Instant) : String := u.labelPattern.format t

/-- **The beginnings of units from `t` on**, `t` being one, as long as they are not after `last`.
The walk also ends where the next beginning is not representable. -/
def unitsFrom (u : CalendarUnit) (last t : Instant) : List Instant :=
  if _ : t ≤ last then
    t :: match _ : t.later? u.ticks with
      | some next => unitsFrom u last next
      | none => []
  else []
termination_by (last.seconds + 1 - t.seconds).toNat
decreasing_by
  have := Instant.seconds_lt_of_later?_eq_some ‹t.later? u.ticks = some next› u.le_ticks
  have := Instant.seconds_le_of_le ‹t ≤ last›
  omega

/-- **The beginnings of the units from `first` through `last`**, none if the first is after the
last. -/
def units (u : CalendarUnit) (first last : Instant) : List Instant :=
  if first ≤ last then u.unitsFrom last (u.floor first) else []

end CalendarUnit

/-- **How an axis from one instant to another is labelled**: by the time of day up to the length
of a day, by the date beyond. -/
def axisPattern (first last : Instant) : Pattern :=
  if first.ticksBetween last ≤ secondsPerDay * 1000000000 then .clock else .isoDate

end ChartData
