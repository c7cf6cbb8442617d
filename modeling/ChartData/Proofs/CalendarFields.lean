import ChartData.Series.CalendarUnit

/-!
# Units and the fields of the calendar

Two instants fall in the same unit when the calendar says the same of them: the same date, for hours
the same hour of it, for minutes the same minute of that (`CalendarUnit.Shared`). Nothing in this is
a division of seconds, and a reader of a chart means nothing else.

The library tells units apart by their ordinals. `CalendarUnit.shared_iff_ordinal_eq` says that this
comes to the same thing, before 1970 as after it: the date is a division of the seconds, the hour
and the minute are divisions of what it leaves over, and a unit is a whole part of a day.
-/

namespace ChartData

/-- **Dates tell days apart**: two instants have the same date exactly when as many whole days lie
before them. -/
theorem Instant.date_eq_iff {s t : Instant} :
    s.date = t.date ↔ s.seconds / secondsPerDay = t.seconds / secondsPerDay := by
  unfold date
  constructor
  · intro h
    rw [← Date.dayNumber_ofDayNumber (s.seconds / secondsPerDay), h,
      Date.dayNumber_ofDayNumber]
  · intro h
    rw [h]

namespace CalendarUnit

/-- **Whether two instants fall in the same unit of the calendar**, by their dates and the fields of
their clocks. -/
def Shared (u : CalendarUnit) (s t : Instant) : Prop :=
  match u with
  | day => s.date = t.date
  | hour => s.date = t.date ∧ s.hour = t.hour
  | minute => s.date = t.date ∧ s.hour = t.hour ∧ s.minute = t.minute

instance (u : CalendarUnit) (s t : Instant) : Decidable (u.Shared s t) :=
  match u with
  | day => inferInstanceAs (Decidable (s.date = t.date))
  | hour => inferInstanceAs (Decidable (s.date = t.date ∧ s.hour = t.hour))
  | minute =>
    inferInstanceAs (Decidable (s.date = t.date ∧ s.hour = t.hour ∧ s.minute = t.minute))

/-- **Ordinals tell units apart.** -/
theorem shared_iff_ordinal_eq {u : CalendarUnit} {s t : Instant} :
    u.Shared s t ↔ u.ordinal s = u.ordinal t := by
  cases u with
  | day => exact Instant.date_eq_iff
  | hour =>
    show s.date = t.date ∧ s.hour = t.hour ↔ s.seconds / 3600 = t.seconds / 3600
    rw [Instant.date_eq_iff]
    unfold Instant.hour Instant.secondOfDay secondsPerDay
    omega
  | minute =>
    show s.date = t.date ∧ s.hour = t.hour ∧ s.minute = t.minute ↔
      s.seconds / 60 = t.seconds / 60
    rw [Instant.date_eq_iff]
    unfold Instant.hour Instant.minute Instant.secondOfDay secondsPerDay
    omega

end CalendarUnit

end ChartData
