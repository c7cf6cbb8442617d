import ChartData.Calendar.Date

/-!
# Instants

An instant is a number of whole seconds since the beginning of 1970, UTC, and the nanoseconds past
it. Every day has 86400 seconds, and the second of the day is a remainder. Instants before 1970 have
negative seconds; the nanoseconds still count forwards.

A leap second has no number. It is part of the second before it, whose nanoseconds then go on up to
two thousand million (`IsLeap`). The clocks of the world have leap seconds at the ends of minutes
alone, and so have instants that come from numbers (`ofUnix?`), but the type has room for one after
any second.

The representable instants are those of the years from -262143 to 262142, and the type carries the
bounds: what would leave them is an operation that may yield nothing (`ofUnix?`, `later?`).

The order is that of the seconds, and for one second that of the nanoseconds. On the line of
nanoseconds (`ticks`) a leap second lies over the second that comes after it. So the line is right
about two instants unless one of them is in a leap second and the other comes later, which is a
second farther away than the line says. Steps in time (`later?`) and the time between two instants
(`ticksBetween`) allow for this.
-/

namespace ChartData

/-- The first second of the year -262143. -/
def firstSecond : Int := -8334601228800

/-- The last second of the year 262142. -/
def lastSecond : Int := 8210266876799

/-- The seconds of a day. -/
def secondsPerDay : Int := 86400

/-- **A representable instant.** -/
structure Instant where
  /-- Whole seconds since the beginning of 1970. -/
  seconds : Int
  /-- Nanoseconds past the second, a thousand million and more in a leap second. -/
  nanos : Nat
  /-- The second is not before the first. -/
  first_le : firstSecond ≤ seconds
  /-- The second is not after the last. -/
  le_last : seconds ≤ lastSecond
  /-- The nanoseconds do not make up a second and a leap second. -/
  nanos_lt : nanos < 2000000000
deriving DecidableEq, Repr

namespace Instant

/-- **Whether the instant is in a leap second.** -/
def IsLeap (t : Instant) : Prop := 1000000000 ≤ t.nanos

instance (t : Instant) : Decidable t.IsLeap := inferInstanceAs (Decidable (1000000000 ≤ t.nanos))

/-- Instants are the same where their seconds and nanoseconds are. -/
theorem ext_iff {a b : Instant} : a = b ↔ a.seconds = b.seconds ∧ a.nanos = b.nanos := by
  cases a; cases b; simp

/-! ## The order -/

instance : LE Instant where
  le a b := a.seconds < b.seconds ∨ a.seconds = b.seconds ∧ a.nanos ≤ b.nanos

instance : LT Instant where
  lt a b := a.seconds < b.seconds ∨ a.seconds = b.seconds ∧ a.nanos < b.nanos

instance (a b : Instant) : Decidable (a ≤ b) :=
  inferInstanceAs (Decidable (a.seconds < b.seconds ∨ a.seconds = b.seconds ∧ a.nanos ≤ b.nanos))

instance (a b : Instant) : Decidable (a < b) :=
  inferInstanceAs (Decidable (a.seconds < b.seconds ∨ a.seconds = b.seconds ∧ a.nanos < b.nanos))

/-- The order is that of the seconds, and for one second that of the nanoseconds. -/
theorem le_def {a b : Instant} :
    a ≤ b ↔ a.seconds < b.seconds ∨ a.seconds = b.seconds ∧ a.nanos ≤ b.nanos := Iff.rfl

/-- The strict order is that of the seconds as well, and for one second that of the nanoseconds. -/
theorem lt_def {a b : Instant} :
    a < b ↔ a.seconds < b.seconds ∨ a.seconds = b.seconds ∧ a.nanos < b.nanos := Iff.rfl

/-- An earlier instant has no later second. -/
theorem seconds_le_of_le {a b : Instant} (h : a ≤ b) : a.seconds ≤ b.seconds := by
  rw [le_def] at h
  omega

/-! ## Instants from numbers -/

/-- The instant with the given seconds and nanoseconds, if it is representable. A leap second has to
be at the end of a minute. -/
def ofUnix? (seconds : Int) (nanos : Nat) : Option Instant :=
  if h : (firstSecond ≤ seconds ∧ seconds ≤ lastSecond) ∧ nanos < 2000000000 ∧
      (1000000000 ≤ nanos → seconds % 60 = 59) then
    some ⟨seconds, nanos, h.1.1, h.1.2, h.2.1⟩
  else none

/-- What is known of the instant with the given seconds and nanoseconds. -/
theorem ofUnix?_eq_some_iff {seconds : Int} {nanos : Nat} {t : Instant} :
    ofUnix? seconds nanos = some t ↔
      t.seconds = seconds ∧ t.nanos = nanos ∧ (t.IsLeap → seconds % 60 = 59) := by
  unfold ofUnix?
  split
  · next h =>
    rw [Option.some.injEq, ext_iff]
    constructor
    · rintro ⟨rfl, rfl⟩
      exact ⟨rfl, rfl, h.2.2⟩
    · rintro ⟨hseconds, hnanos, -⟩
      exact ⟨hseconds.symm, hnanos.symm⟩
  · next h =>
    refine ⟨nofun, ?_⟩
    rintro ⟨rfl, rfl, hleap⟩
    exact absurd ⟨⟨t.first_le, t.le_last⟩, t.nanos_lt, hleap⟩ h

/-- **The nanoseconds since the beginning of 1970**, those of a leap second counted on from the
second that it is part of. -/
def ticks (t : Instant) : Int := t.seconds * 1000000000 + t.nanos

/-- The instant at a number of nanoseconds, in no leap second, if it is representable. -/
def ofTicks? (ticks : Int) : Option Instant :=
  ofUnix? (ticks / 1000000000) (ticks % 1000000000).toNat

/-- What is known of the instant at a number of nanoseconds. -/
theorem ofTicks?_eq_some_iff {ticks : Int} {t : Instant} :
    ofTicks? ticks = some t ↔ t.ticks = ticks ∧ ¬t.IsLeap := by
  unfold ofTicks?
  rw [ofUnix?_eq_some_iff]
  unfold Instant.ticks IsLeap
  omega

/-- No instant is representable before the first second or after the last, and all others are. -/
theorem ofTicks?_eq_none_iff {ticks : Int} :
    ofTicks? ticks = none ↔
      ticks < firstSecond * 1000000000 ∨ (lastSecond + 1) * 1000000000 ≤ ticks := by
  unfold ofTicks? ofUnix?
  split
  · next h =>
    refine ⟨nofun, fun h' => ?_⟩
    omega
  · next h =>
    refine ⟨fun _ => ?_, fun _ => rfl⟩
    omega

/-- No later instant has fewer ticks, from one in no leap second on. -/
theorem ticks_le_of_le {a b : Instant} (h : a ≤ b) (ha : ¬a.IsLeap) : a.ticks ≤ b.ticks := by
  rw [le_def] at h
  unfold IsLeap at ha
  unfold ticks
  omega

/-! ## Steps in time -/

/-- **The instant a number of nanoseconds later** – earlier for a negative number – if it is
representable. Less than a second may stay in the leap second or lead back out of it; a step that
leaves it forwards comes out a second short of the ticks. -/
def later? (t : Instant) (ticks : Int) : Option Instant :=
  if h : t.IsLeap ∧ (-1000000000 < ticks ∧ ticks < 1000000000) ∧ t.nanos + ticks < 2000000000 then
    some ⟨t.seconds, (t.nanos + ticks).toNat, t.first_le, t.le_last, by omega⟩
  else if t.IsLeap ∧ 0 < ticks then ofTicks? (t.ticks + ticks - 1000000000)
  else ofTicks? (t.ticks + ticks)

/-- From an instant in no leap second a step is one in ticks. -/
theorem later?_of_not_isLeap {t : Instant} (h : ¬t.IsLeap) (ticks : Int) :
    t.later? ticks = ofTicks? (t.ticks + ticks) := by
  unfold later?
  rw [dif_neg fun h' => h h'.1, if_neg fun h' => h h'.1]

/-- A step of a second or more towards the past is one in ticks. -/
theorem later?_of_le {ticks : Int} (h : ticks ≤ -1000000000) (t : Instant) :
    t.later? ticks = ofTicks? (t.ticks + ticks) := by
  unfold later?
  rw [dif_neg (by omega), if_neg (by omega)]

/-- No step leads nowhere else. -/
@[simp] theorem later?_zero (t : Instant) : t.later? 0 = some t := by
  by_cases h : t.IsLeap
  · have := t.nanos_lt
    unfold later?
    rw [dif_pos ⟨h, by decide, by omega⟩, Option.some.injEq, ext_iff]
    exact ⟨rfl, by show ((t.nanos : Int) + 0).toNat = t.nanos; omega⟩
  · rw [later?_of_not_isLeap h, Int.add_zero]
    exact ofTicks?_eq_some_iff.mpr ⟨rfl, h⟩

/-- What is known of a later instant, from one in no leap second. -/
theorem later?_eq_some_iff {t u : Instant} (h : ¬t.IsLeap) {ticks : Int} :
    t.later? ticks = some u ↔ u.ticks = t.ticks + ticks ∧ ¬u.IsLeap := by
  rw [later?_of_not_isLeap h, ofTicks?_eq_some_iff]

/-- **A step towards the past is one in ticks**, from a leap second as well. -/
theorem ticks_of_later?_eq_some {t u : Instant} {ticks : Int} (h : t.later? ticks = some u)
    (hticks : ticks ≤ 0) : u.ticks = t.ticks + ticks := by
  unfold later? at h
  split at h
  · next hstays =>
    obtain rfl := Option.some.inj h
    obtain ⟨hleap, hless, -⟩ := hstays
    unfold IsLeap at hleap
    unfold Instant.ticks
    dsimp only
    omega
  · rw [if_neg fun h' => Int.not_lt.mpr hticks h'.2] at h
    exact (ofTicks?_eq_some_iff.mp h).1

/-- A step towards the past leads to no instant exactly where that would be before the first
one. -/
theorem later?_eq_none_iff_of_nonpos {t : Instant} {ticks : Int} (hticks : ticks ≤ 0) :
    t.later? ticks = none ↔ t.ticks + ticks < firstSecond * 1000000000 := by
  have := t.nanos_lt
  have := t.first_le
  have := t.le_last
  unfold later?
  split
  · next hstays =>
    obtain ⟨hleap, hless, -⟩ := hstays
    refine ⟨nofun, fun h => ?_⟩
    unfold IsLeap at hleap
    unfold Instant.ticks at h
    omega
  · next hleaves =>
    rw [if_neg fun h' => Int.not_lt.mpr hticks h'.2, ofTicks?_eq_none_iff]
    refine ⟨fun h => h.resolve_right fun hlate => ?_, .inl⟩
    unfold Instant.ticks at hlate
    unfold IsLeap at hleaves
    omega

/-- **From an instant one gets back to any whole second** that is not after its own. -/
theorem later?_eq_some_of_wholeSecond {s t : Instant} (hs : s.nanos = 0)
    (h : s.seconds ≤ t.seconds) : t.later? (s.ticks - t.ticks) = some s := by
  have hleap : ¬s.IsLeap := by
    unfold IsLeap
    omega
  have hticks : s.ticks - t.ticks ≤ -t.nanos := by
    unfold ticks
    omega
  by_cases ht : t.IsLeap
  · unfold IsLeap at ht
    rw [later?_of_le (by omega), ofTicks?_eq_some_iff]
    exact ⟨by omega, hleap⟩
  · rw [later?_eq_some_iff ht]
    exact ⟨by omega, hleap⟩

/-- A step of a second or more leads to a later second. -/
theorem seconds_lt_of_later?_eq_some {t u : Instant} {ticks : Int} (h : t.later? ticks = some u)
    (hticks : 1000000000 ≤ ticks) : t.seconds < u.seconds := by
  obtain ⟨reached, hreached, hle⟩ : ∃ reached, ofTicks? reached = some u ∧
      (t.seconds + 1) * 1000000000 ≤ reached := by
    unfold later? at h
    rw [dif_neg (by omega)] at h
    split at h
    · next hleap =>
      have : 1000000000 ≤ t.nanos := hleap.1
      exact ⟨_, h, by unfold Instant.ticks; omega⟩
    · exact ⟨_, h, by unfold Instant.ticks; omega⟩
  obtain ⟨hu, hnot⟩ := ofTicks?_eq_some_iff.mp hreached
  unfold IsLeap at hnot
  unfold Instant.ticks at hu
  omega

/-! ## The calendar and the clock -/

/-- The day that the instant falls on. -/
def date (t : Instant) : Date := .ofDayNumber (t.seconds / secondsPerDay)

/-- The seconds since the beginning of the day. -/
def secondOfDay (t : Instant) : Nat := (t.seconds % secondsPerDay).toNat

/-- The hour of the day. -/
def hour (t : Instant) : Nat := t.secondOfDay / 3600

/-- The minute of the hour. -/
def minute (t : Instant) : Nat := t.secondOfDay / 60 % 60

/-- The second of the minute. -/
def second (t : Instant) : Nat := t.secondOfDay % 60

/-- **The second that a clock shows**, which for a leap second is the next one: 60 after 59. -/
def shownSecond (t : Instant) : Nat := t.second + t.nanos / 1000000000

theorem secondOfDay_lt (t : Instant) : t.secondOfDay < 86400 := by
  unfold secondOfDay secondsPerDay
  omega

/-- The day has the hour. -/
theorem hour_lt (t : Instant) : t.hour < 24 := by
  have := t.secondOfDay_lt
  unfold hour
  omega

/-- The hour has the minute. -/
theorem minute_lt (t : Instant) : t.minute < 60 := Nat.mod_lt _ (by decide)

/-- The minute has the second. -/
theorem second_lt (t : Instant) : t.second < 60 := Nat.mod_lt _ (by decide)

/-- In no leap second the clock shows the second. -/
theorem shownSecond_of_not_isLeap {t : Instant} (h : ¬t.IsLeap) : t.shownSecond = t.second := by
  unfold IsLeap at h
  unfold shownSecond
  omega

/-- In a leap second the clock shows the next second. -/
theorem shownSecond_of_isLeap {t : Instant} (h : t.IsLeap) : t.shownSecond = t.second + 1 := by
  have := t.nanos_lt
  unfold IsLeap at h
  unfold shownSecond
  omega

/-- The clock shows no more than a minute. -/
theorem shownSecond_le (t : Instant) : t.shownSecond ≤ 60 := by
  have := t.nanos_lt
  have := t.second_lt
  unfold shownSecond
  omega

/-- **The date and the clock make up the seconds.** -/
theorem seconds_eq (t : Instant) :
    t.seconds = t.date.dayNumber * 86400 + t.hour * 3600 + t.minute * 60 + t.second := by
  have hday : t.date.dayNumber = t.seconds / 86400 := Date.dayNumber_ofDayNumber _
  unfold hour minute second secondOfDay secondsPerDay
  omega

/-- The second of the minute is what the minutes leave over. -/
theorem second_eq (t : Instant) : (t.second : Int) = t.seconds % 60 := by
  have := t.seconds_eq
  have := t.second_lt
  omega

/-- The instant without its nanoseconds. -/
def wholeSecond (t : Instant) : Instant := ⟨t.seconds, 0, t.first_le, t.le_last, by decide⟩

/-- The order of whole seconds is that of the seconds. -/
theorem wholeSecond_le_iff {a b : Instant} :
    a.wholeSecond ≤ b.wholeSecond ↔ a.seconds ≤ b.seconds := by
  show a.seconds < b.seconds ∨ a.seconds = b.seconds ∧ 0 ≤ 0 ↔ _
  omega

/-- The strict order of whole seconds is that of the seconds. -/
theorem wholeSecond_lt_iff {a b : Instant} :
    a.wholeSecond < b.wholeSecond ↔ a.seconds < b.seconds := by
  show a.seconds < b.seconds ∨ a.seconds = b.seconds ∧ 0 < 0 ↔ _
  omega

/-- A whole second is in no leap second. -/
theorem not_isLeap_wholeSecond (t : Instant) : ¬t.wholeSecond.IsLeap := by
  show ¬1000000000 ≤ 0
  decide

/-- The instant at a time of a day, if it is representable. -/
def ofDateTime? (d : Date) (hour minute second : Nat) : Option Instant :=
  ofUnix? (d.dayNumber * secondsPerDay + hour * 3600 + minute * 60 + second) 0

/-- What is known of the instant at a time of a day. -/
theorem ofDateTime?_eq_some_iff {d : Date} {hour minute second : Nat} {t : Instant} :
    ofDateTime? d hour minute second = some t ↔
      t.seconds = d.dayNumber * 86400 + hour * 3600 + minute * 60 + second ∧ t.nanos = 0 := by
  unfold ofDateTime? secondsPerDay
  rw [ofUnix?_eq_some_iff]
  unfold IsLeap
  omega

/-! ## The time between instants -/

/-- **The nanoseconds that a leap second adds** to those between the ticks of two instants: a
thousand million from a leap second to a later time of day, and as many less to one from a later
time of day. The dates are not looked at. -/
def leapShift (a b : Instant) : Int :=
  if a.IsLeap ∧ a.secondOfDay < b.secondOfDay then 1000000000
  else if b.IsLeap ∧ b.secondOfDay < a.secondOfDay then -1000000000
  else 0

/-- A leap second adds no more than the nanoseconds of the instant that it comes after. -/
theorem leapShift_le (a b : Instant) : a.leapShift b ≤ a.nanos := by
  unfold leapShift
  split
  · next h => exact Int.ofNat_le.mpr h.1
  · split <;> omega

/-- A leap second takes away no more than the nanoseconds of the instant that is in it. -/
theorem le_leapShift (a b : Instant) : -(b.nanos : Int) ≤ a.leapShift b := by
  unfold leapShift
  split
  · omega
  · split
    · next h => exact Int.neg_le_neg (Int.ofNat_le.mpr h.1)
    · omega

/-- **The nanoseconds from one instant to another**, negative if the other is the earlier one. -/
def ticksBetween (a b : Instant) : Int := b.ticks - a.ticks + a.leapShift b

/-- Nothing is added between instants in no leap second. -/
theorem leapShift_of_not_isLeap {a b : Instant} (ha : ¬a.IsLeap) (hb : ¬b.IsLeap) :
    a.leapShift b = 0 := by
  unfold leapShift
  rw [if_neg fun h => ha h.1, if_neg fun h => hb h.1]

/-- Between instants in no leap second the ticks are right. -/
theorem ticksBetween_of_not_isLeap {a b : Instant} (ha : ¬a.IsLeap) (hb : ¬b.IsLeap) :
    a.ticksBetween b = b.ticks - a.ticks := by
  unfold ticksBetween
  rw [leapShift_of_not_isLeap ha hb, Int.add_zero]

/-- **Towards a later instant the nanoseconds may be negative**, but they do not make up a
second. -/
theorem neg_lt_ticksBetween {a b : Instant} (h : a ≤ b) : -1000000000 < a.ticksBetween b := by
  have := a.nanos_lt
  rw [le_def] at h
  unfold ticksBetween leapShift ticks IsLeap secondOfDay secondsPerDay
  split
  · omega
  · split <;> omega

end Instant

end ChartData
