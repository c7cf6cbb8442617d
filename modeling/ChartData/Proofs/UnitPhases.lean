import ChartData.Proofs.OpenRanges

/-!
# Instants within their units

The ticks of an instant are told by the ordinal of its unit and by its phase, the nanoseconds since
the unit began (`CalendarUnit.phase`). The phase counts forwards and does not make up a unit, before
1970 as after it, so nothing that is said here depends on the sign of the seconds. In a leap second
it may make up a unit and go on, since the leap second is part of the second before it and so of its
unit.

The floor of an instant is what is left without the phase. One may also go back in two steps, first
by the seconds that are past the beginning and then by the nanoseconds; neither step leaves the
representable instants, since the first of them begins a unit (`CalendarUnit.floorInSteps?_eq`).
Floors and ordinals tell the same instants apart, and to take the floor of a finer unit first makes
no difference (`CalendarUnit.floors_follow_ordinals`).

How many units a range has can be told from its ends, up to one. Of the whole units that fit between
the ends (`CalendarUnit.span`) there are as many as the ordinals differ by, or one fewer if the last
instant has the smaller phase, and with both ends counted the units are one more than the span or
two more (`CalendarUnit.units_fit_span`). The walk that lists them does not look at the span, so
this is what makes room for two more than the span enough for every walk, and what bounds a report
by the span of its range.

Leap seconds put this off by one, each end in its own way. A last instant in a leap second is
farther away than the ordinals say, and the units may be no more than the span. From a first instant
in a leap second the span is the smaller for it, and the units may be three more
(`CalendarUnit.span_in_leap_second`).
-/

namespace ChartData

/-- **The whole seconds from one instant to another**, negative if the other is the earlier one. -/
def Instant.secondsBetween (a b : Instant) : Int := (a.ticksBetween b).tdiv 1000000000

namespace CalendarUnit

variable {u finer : CalendarUnit} {s t first last : Instant}

/-! ## Ordinal and phase -/

/-- The beginning of a unit is at no later time of the day. -/
theorem secondOfDay_floor_le (u : CalendarUnit) (t : Instant) :
    (u.floor t).secondOfDay ≤ t.secondOfDay := by
  show ((t.seconds - t.seconds % u.seconds) % 86400).toNat ≤ (t.seconds % 86400).toNat
  cases u <;> simp only [seconds] <;> omega

/-- **The nanoseconds since the unit of an instant began.** -/
def phase (u : CalendarUnit) (t : Instant) : Int := (u.floor t).ticksBetween t

theorem phase_eq (u : CalendarUnit) (t : Instant) :
    u.phase t = t.seconds % u.seconds * 1000000000 + t.nanos := by
  have hshift : (u.floor t).leapShift t = 0 := by
    unfold Instant.leapShift
    rw [if_neg fun h => (u.begins_floor t).not_isLeap h.1,
      if_neg fun h => Nat.not_lt.mpr (u.secondOfDay_floor_le t) h.2]
  unfold phase Instant.ticksBetween
  rw [hshift]
  show t.seconds * 1000000000 + t.nanos -
    ((t.seconds - t.seconds % u.seconds) * 1000000000 + (0 : Nat)) + 0 = _
  omega

/-- The phase has the nanoseconds past the second. -/
theorem nanos_le_phase (u : CalendarUnit) (t : Instant) : t.nanos ≤ u.phase t := by
  have := Int.emod_nonneg t.seconds (Int.ne_of_gt u.seconds_pos)
  rw [phase_eq]
  omega

/-- The phase makes up less than a unit and a leap second. -/
theorem phase_lt_add (u : CalendarUnit) (t : Instant) : u.phase t < u.ticks + 1000000000 := by
  have := Int.emod_lt_of_pos t.seconds u.seconds_pos
  have := t.nanos_lt
  rw [phase_eq]
  unfold ticks
  omega

/-- **The phase does not make up a unit** in no leap second. -/
theorem phase_lt (u : CalendarUnit) (h : ¬t.IsLeap) : u.phase t < u.ticks := by
  have := Int.emod_lt_of_pos t.seconds u.seconds_pos
  unfold Instant.IsLeap at h
  rw [phase_eq]
  unfold ticks
  omega

/-- **The ticks of an instant are told by its ordinal and its phase.** -/
theorem ticks_eq (u : CalendarUnit) (t : Instant) :
    t.ticks = u.ticks * u.ordinal t + u.phase t := by
  have hticks : u.ticks * u.ordinal t = u.seconds * u.ordinal t * 1000000000 :=
    Int.mul_right_comm _ _ _
  have := Int.mul_ediv_add_emod t.seconds u.seconds
  rw [hticks, phase_eq]
  unfold Instant.ticks ordinal
  omega

/-! ## Floors -/

/-- **Back by the seconds since the unit began**, one is at the nanoseconds past the floor. Out of a
leap second this may be in the second after that of the floor, but not in the one before it. -/
theorem exists_later?_eq_some (u : CalendarUnit) (t : Instant) :
    ∃ between, t.later? (-(t.seconds % u.seconds * 1000000000)) = some between ∧
      between.ticks = (u.floor t).ticks + t.nanos ∧ (u.floor t).seconds ≤ between.seconds := by
  have hrem := Int.emod_nonneg t.seconds (Int.ne_of_gt u.seconds_pos)
  have hfirst : firstSecond ≤ t.seconds - t.seconds % u.seconds := (u.floor t).first_le
  have hfloor : (u.floor t).ticks = (t.seconds - t.seconds % u.seconds) * 1000000000 :=
    Int.add_zero _
  obtain ⟨between, hbetween⟩ : ∃ between,
      t.later? (-(t.seconds % u.seconds * 1000000000)) = some between := by
    rw [← Option.ne_none_iff_exists', ne_eq, Instant.later?_eq_none_iff_of_nonpos (by omega)]
    unfold Instant.ticks
    omega
  have hticks : between.ticks = (u.floor t).ticks + t.nanos := by
    rw [Instant.ticks_of_later?_eq_some hbetween (by omega), hfloor]
    unfold Instant.ticks
    omega
  refine ⟨between, hbetween, hticks, ?_⟩
  show t.seconds - t.seconds % u.seconds ≤ between.seconds
  by_cases hzero : t.seconds % u.seconds = 0
  · rw [hzero] at hbetween
    obtain rfl : t = between := by simpa using hbetween
    omega
  · rw [Instant.later?_of_le (by omega), Instant.ofTicks?_eq_some_iff] at hbetween
    have hleap := hbetween.2
    unfold Instant.IsLeap at hleap
    rw [hfloor] at hticks
    unfold Instant.ticks at hticks
    omega

/-- **The floor in two steps**: back by the seconds since the unit began and then by the
nanoseconds, if there are such instants. -/
def floorInSteps? (u : CalendarUnit) (t : Instant) : Option Instant := do
  let between ← t.later? (-(t.seconds % u.seconds * 1000000000))
  between.later? (-t.nanos)

/-- **The two steps always exist, and they lead to the floor.** -/
theorem floorInSteps?_eq (u : CalendarUnit) (t : Instant) :
    u.floorInSteps? t = some (u.floor t) := by
  obtain ⟨between, hbetween, hticks, hseconds⟩ := u.exists_later?_eq_some t
  have hnanos : -(t.nanos : Int) = (u.floor t).ticks - between.ticks := by omega
  unfold floorInSteps?
  rw [hbetween]
  show between.later? (-t.nanos) = some (u.floor t)
  rw [hnanos]
  exact Instant.later?_eq_some_of_wholeSecond rfl hseconds

/-- An instant is not before its floor. -/
theorem floor_le (u : CalendarUnit) (t : Instant) : u.floor t ≤ t := by
  have := Int.emod_nonneg t.seconds (Int.ne_of_gt u.seconds_pos)
  show t.seconds - t.seconds % u.seconds < t.seconds ∨
    t.seconds - t.seconds % u.seconds = t.seconds ∧ 0 ≤ t.nanos
  omega

/-- **An instant is less than a unit after its floor**, in whole seconds, be the unit that comes
next representable or not. -/
theorem seconds_lt_floor_add (u : CalendarUnit) (t : Instant) :
    t.seconds < (u.floor t).seconds + u.seconds := by
  have := Int.emod_lt_of_pos t.seconds u.seconds_pos
  show t.seconds < t.seconds - t.seconds % u.seconds + u.seconds
  omega

/-- **An instant is before the unit that comes next**, in a leap second as well. -/
theorem lt_of_later?_floor_eq_some {next : Instant}
    (h : (u.floor t).later? u.ticks = some next) : t < next := by
  obtain ⟨hnext, ho⟩ := (u.begins_floor t).later h
  rw [ordinal_floor] at ho
  rw [Instant.lt_def]
  refine .inl (Int.lt_of_lt_of_le (u.seconds_lt_floor_add t) (Int.le_of_eq ?_))
  rw [hnext.1, ho, seconds_floor, Int.mul_add, Int.mul_one]

/-- **Instants have the same floor where they have the same ordinal.** -/
theorem floor_eq_iff : u.floor s = u.floor t ↔ u.ordinal s = u.ordinal t := by
  constructor
  · intro h
    rw [← ordinal_floor, h, ordinal_floor]
  · intro h
    refine (u.begins_floor s).eq_of_ordinal_eq (u.begins_floor t) ?_
    rw [ordinal_floor, ordinal_floor, h]

/-- A finer unit is a whole part of a coarser one. -/
theorem seconds_dvd_of_le (h : finer.seconds ≤ u.seconds) : finer.seconds ∣ u.seconds := by
  revert h
  cases finer <;> cases u <;> decide

/-- The ordinal of a coarser unit comes from that of a finer one. -/
theorem exists_ordinal_eq_ediv (h : finer.seconds ∣ u.seconds) :
    ∃ n, ∀ t, u.ordinal t = finer.ordinal t / n := by
  obtain ⟨n, hn⟩ := h
  refine ⟨n, fun t => ?_⟩
  unfold ordinal
  rw [hn, Int.ediv_ediv_of_nonneg (Int.le_of_lt finer.seconds_pos)]

/-- **The floor of a finer unit is in the same coarser unit**, so to take it first makes no
difference. -/
theorem floor_floor (h : finer.seconds ≤ u.seconds) (t : Instant) :
    u.floor (finer.floor t) = u.floor t := by
  obtain ⟨n, hn⟩ := exists_ordinal_eq_ediv (seconds_dvd_of_le h)
  rw [floor_eq_iff, hn, hn, ordinal_floor]

/-- **What a floor is**, for every representable instant. One gets there by going back, first the
seconds and then the nanoseconds, without leaving the representable instants. It is on the whole
second that the ordinal says, not after the instant and less than a unit before it, and the unit
that comes next is after the instant. Two instants have the same ordinal where they have the same
floor, the later of two has no smaller ordinal, and the floor is the same if that of a finer unit is
taken first. -/
theorem floors_follow_ordinals (u : CalendarUnit) :
    (∀ t, u.floorInSteps? t = some (u.floor t) ∧
      (u.floor t).nanos = 0 ∧ (u.floor t).seconds = u.ordinal t * u.seconds ∧
      u.floor t ≤ t ∧ t.seconds < (u.floor t).seconds + u.seconds ∧
      ∀ next, (u.floor t).later? u.ticks = some next → t < next) ∧
    (∀ s t, (u.ordinal s = u.ordinal t ↔ u.floor s = u.floor t) ∧
      (s ≤ t → u.ordinal s ≤ u.ordinal t)) ∧
    ∀ finer : CalendarUnit, finer.seconds ≤ u.seconds →
      ∀ t, u.floor (finer.floor t) = u.floor t := by
  refine ⟨fun t => ⟨u.floorInSteps?_eq t, rfl, ?_, u.floor_le t, u.seconds_lt_floor_add t,
    fun next => u.lt_of_later?_floor_eq_some⟩,
    fun s t => ⟨floor_eq_iff.symm, u.ordinal_le_of_le⟩, fun finer h t => floor_floor h t⟩
  rw [seconds_floor, Int.mul_comm]

/-- The first instant, the last nanosecond of 1969, the leap second at the end of 2016 and the last
instant, in days. The year 2017 is after the leap second, which is part of 2016, and no day comes
after that of the last instant. -/
theorem floors_follow_ordinals_at_the_ends :
    let earliest : Instant := ⟨-8334601228800, 0, by decide, by decide, by decide⟩
    let before : Instant := ⟨-1, 999999999, by decide, by decide, by decide⟩
    let leap : Instant := ⟨1483228799, 1999999999, by decide, by decide, by decide⟩
    let newYear : Instant := ⟨1483228800, 0, by decide, by decide, by decide⟩
    let latest : Instant := ⟨8210266876799, 999999999, by decide, by decide, by decide⟩
    earliest ≤ before ∧ day.ordinal earliest ≤ day.ordinal before ∧
      day.floorInSteps? earliest = some earliest ∧
      day.floorInSteps? before = some ⟨-86400, 0, by decide, by decide, by decide⟩ ∧
      leap.IsLeap ∧ (day.floor leap).later? day.ticks = some newYear ∧ leap < newYear ∧
      (day.floor latest).later? day.ticks = none ∧
      latest.seconds < (day.floor latest).seconds + day.seconds ∧
      minute.seconds ≤ day.seconds ∧ day.floor (minute.floor latest) = day.floor latest := by
  intro earliest before leap newYear latest
  have horder : earliest ≤ before := by decide
  have hnext : (day.floor leap).later? day.ticks = some newYear := by decide
  have hfiner : minute.seconds ≤ day.seconds := by decide
  obtain ⟨hfloor, hordinal, hfloors⟩ := floors_follow_ordinals day
  exact ⟨horder, (hordinal earliest before).2 horder, (hfloor earliest).1.trans (by decide),
    (hfloor before).1.trans (by decide), by decide, hnext,
    (hfloor leap).2.2.2.2.2 newYear hnext, by decide, (hfloor latest).2.2.2.2.1, hfiner,
    hfloors minute hfiner latest⟩

/-! ## The span of a range -/

/-- **The whole units that fit between two instants**: the whole seconds between them divided by
those of a unit, both rounded towards zero. -/
def span (u : CalendarUnit) (first last : Instant) : Int :=
  (first.secondsBetween last).tdiv u.seconds

/-- **The room that is set aside** for the units of a range before they are listed: the span and
two more, as far as a machine number goes. -/
def room (u : CalendarUnit) (first last : Instant) : Nat :=
  min ((u.span first last).toNat + 2) (UInt64.size - 1)

/-- **Rounding once is enough**, and what is negative by less than a second counts as nothing. -/
theorem span_eq_ediv (h : first ≤ last) :
    u.span first last = max 0 (first.ticksBetween last) / u.ticks := by
  have hseconds : first.secondsBetween last = max 0 (first.ticksBetween last) / 1000000000 := by
    unfold Instant.secondsBetween
    rcases Int.le_total 0 (first.ticksBetween last) with hpos | hneg
    · rw [max_eq_right hpos, Int.tdiv_eq_ediv_of_nonneg hpos]
    · have := Instant.neg_lt_ticksBetween h
      rw [max_eq_left hneg, ← Int.neg_neg (first.ticksBetween last), Int.neg_tdiv,
        Int.tdiv_eq_zero_of_lt (by omega) (by omega)]
      rfl
  unfold span
  rw [hseconds, Int.tdiv_eq_ediv_of_nonneg (by omega), Int.ediv_ediv_of_nonneg (by decide),
    Int.mul_comm, ticks]

/-- The units that fit between two instants are those whose nanoseconds fit. -/
theorem le_span_iff (h : first ≤ last) {n : Int} :
    n ≤ u.span first last ↔ n * u.ticks ≤ max 0 (first.ticksBetween last) := by
  rw [span_eq_ediv h, Int.le_ediv_iff_mul_le (Int.lt_of_lt_of_le (by decide) u.le_ticks)]

/-- No span is negative. -/
theorem span_nonneg (h : first ≤ last) : 0 ≤ u.span first last := by
  rw [le_span_iff h, Int.zero_mul]
  exact le_max_left 0 _

/-- **The time between two instants** is that between their units, with the phases set off against
each other and the leap second counted. -/
theorem ticksBetween_eq (u : CalendarUnit) (first last : Instant) :
    first.ticksBetween last = (u.ordinal last - u.ordinal first) * u.ticks +
      (u.phase last - u.phase first) + first.leapShift last := by
  unfold Instant.ticksBetween
  rw [u.ticks_eq first, u.ticks_eq last, Int.sub_mul, Int.mul_comm u.ticks, Int.mul_comm u.ticks]
  omega

/-- **The span is less than the ordinals and the last phase make up.** What a leap second adds is
part of the first phase, so it does not count. -/
theorem span_lt (h : first ≤ last) {n : Int} (hphase : u.phase last < n * u.ticks) :
    u.span first last < u.ordinal last - u.ordinal first + n := by
  have hordinals := Int.sub_nonneg_of_le (u.ordinal_le_of_le h)
  have hpos := Int.mul_nonneg hordinals (Int.le_trans (by decide) u.le_ticks)
  have := u.nanos_le_phase first
  have := u.nanos_le_phase last
  have := first.leapShift_le last
  rw [← Int.not_le, le_span_iff h, u.ticksBetween_eq, Int.add_mul]
  omega

/-- **The span is no less than the ordinals and the first phase leave.** What a leap second takes
away is part of the last phase. -/
theorem sub_le_span (h : first ≤ last) {n : Int} (hphase : u.phase first ≤ n * u.ticks) :
    u.ordinal last - u.ordinal first - n ≤ u.span first last := by
  have := u.nanos_le_phase last
  have := first.le_leapShift last
  rw [le_span_iff h, u.ticksBetween_eq, Int.sub_mul _ n]
  omega

/-- **The units of a range are no fewer than its span**, and more than it unless the last instant is
in a leap second. -/
theorem span_le_length_units (h : first ≤ last) :
    u.span first last ≤ (u.units first last).length ∧
      (¬last.IsLeap → u.span first last + 1 ≤ (u.units first last).length) := by
  have hlength := length_units (u := u) h
  constructor
  · have := u.phase_lt_add last
    have := u.le_ticks
    have := span_lt (u := u) (n := 2) h (by omega)
    omega
  · intro hlast
    have := u.phase_lt hlast
    have := span_lt (u := u) (n := 1) h (by omega)
    omega

/-- **The units of a range are at most three more than its span**, and two unless the first instant
is in a leap second. -/
theorem length_units_le_span (h : first ≤ last) :
    (u.units first last).length ≤ u.span first last + 3 ∧
      (¬first.IsLeap → (u.units first last).length ≤ u.span first last + 2) := by
  have hlength := length_units (u := u) h
  constructor
  · have := u.phase_lt_add first
    have := u.le_ticks
    have := sub_le_span (u := u) (n := 2) h (by omega)
    omega
  · intro hfirst
    have := u.phase_lt hfirst
    have := sub_le_span (u := u) (n := 1) h (by omega)
    omega

/-- **The units of a range are one more than its span or two more**, as the phases say, between
instants in no leap second. -/
theorem length_units_eq_span (h : first ≤ last) (hfirst : ¬first.IsLeap) (hlast : ¬last.IsLeap) :
    ((u.units first last).length : Int) = u.span first last + 1 ∧
        u.phase first ≤ u.phase last ∨
      ((u.units first last).length : Int) = u.span first last + 2 ∧
        u.phase last < u.phase first := by
  have hlength := length_units (u := u) h
  have hlower := (span_le_length_units (u := u) h).2 hlast
  have hupper := (length_units_le_span (u := u) h).2 hfirst
  have hticks := u.ticksBetween_eq first last
  rw [Instant.leapShift_of_not_isLeap hfirst hlast] at hticks
  by_cases hphase : u.phase first ≤ u.phase last
  · have hspan : u.ordinal last - u.ordinal first ≤ u.span first last := by
      rw [le_span_iff h]
      omega
    exact .inl ⟨by omega, hphase⟩
  · have hspan : ¬u.ordinal last - u.ordinal first ≤ u.span first last := by
      have := Instant.ticks_le_of_le h hfirst
      rw [Instant.ticksBetween_of_not_isLeap hfirst hlast] at hticks
      rw [le_span_iff h, Instant.ticksBetween_of_not_isLeap hfirst hlast]
      omega
    exact .inr ⟨by omega, Int.not_le.mp hphase⟩

/-- **The room is two more than the span**, since no range has as many units as there are machine
numbers. -/
theorem room_eq (h : first ≤ last) : (u.room first last : Int) = u.span first last + 2 := by
  have := span_nonneg (u := u) h
  have := length_units (u := u) h
  have := (span_le_length_units (u := u) h).1
  have := u.ordinal_sub_lt first last
  unfold room UInt64.size
  omega

/-- **A bound on the span bounds the units**, whichever of the two instants is the earlier one. -/
theorem length_units_le {bound : Nat} (hspan : u.span first last ≤ bound) :
    (u.units first last).length ≤ bound + 3 ∧
      (¬first.IsLeap → (u.units first last).length ≤ bound + 2) := by
  by_cases h : first ≤ last
  · obtain ⟨hle, hle'⟩ := length_units_le_span (u := u) h
    exact ⟨by omega, fun hfirst => by have := hle' hfirst; omega⟩
  · unfold units
    rw [if_neg h]
    exact ⟨Nat.zero_le _, fun _ => Nat.zero_le _⟩

/-- **The units of a range fit the room for its span.** They are one more than the span or two more,
and two exactly if the last instant has the smaller phase; so the room set aside is enough, and at
most one unit too large. If the span is bounded then so are the units, and the buckets of every
report over the range.

That much is so unless an end is in a leap second. With the last instant in one the units may be no
more than the span, and never fewer; with the first in one they may be three more and outgrow the
room, and never four. -/
theorem units_fit_span (u : CalendarUnit) (first last : Instant) :
    (first ≤ last →
      (¬first.IsLeap → ¬last.IsLeap →
        ((u.units first last).length : Int) = u.span first last + 1 ∧
            u.phase first ≤ u.phase last ∨
          ((u.units first last).length : Int) = u.span first last + 2 ∧
            u.phase last < u.phase first) ∧
      (u.room first last : Int) = u.span first last + 2 ∧
      (u.span first last ≤ (u.units first last).length ∧
        (¬last.IsLeap → u.span first last + 1 ≤ (u.units first last).length)) ∧
      (u.units first last).length ≤ u.room first last + 1 ∧
      (¬first.IsLeap → (u.units first last).length ≤ u.room first last)) ∧
    ∀ bound : Nat, u.span first last ≤ bound →
      ((u.units first last).length ≤ bound + 3 ∧
        (¬first.IsLeap → (u.units first last).length ≤ bound + 2)) ∧
      ∀ (options : SeriesOptions) now samples range r, options.unit = u →
        options.bounds now range = .ok (first, last) →
        options.report now samples range = .ok r →
          r.buckets.length ≤ bound + 3 ∧ (¬first.IsLeap → r.buckets.length ≤ bound + 2) := by
  constructor
  · intro h
    have hroom := room_eq (u := u) h
    obtain ⟨hle, hle'⟩ := length_units_le_span (u := u) h
    exact ⟨length_units_eq_span h, hroom, span_le_length_units h, by omega,
      fun hfirst => by have := hle' hfirst; omega⟩
  · intro bound hspan
    refine ⟨length_units_le hspan, fun options now samples range r hunit hb hr => ?_⟩
    have htimes := congrArg List.length (SeriesOptions.map_time_report hb hr)
    rw [List.length_map, hunit] at htimes
    rw [htimes]
    exact length_units_le hspan

/-- The last second of 1969 and the first hour of 1970, in hours. From the second on there are two
units and none fits in between; the hour is one unit, and none fits in between either. -/
theorem units_fit_span_around_1970 :
    let before : Instant := ⟨-1, 0, by decide, by decide, by decide⟩
    let epoch : Instant := ⟨0, 0, by decide, by decide, by decide⟩
    let last : Instant := ⟨3599, 999999999, by decide, by decide, by decide⟩
    let options : SeriesOptions := { (default : SeriesOptions) with unit := .hour }
    let range : DateRange := ⟨some "1969-12-31 23:59:59", some "1970-01-01"⟩
    (¬before.IsLeap ∧ ¬epoch.IsLeap ∧ ¬last.IsLeap) ∧
    (before ≤ epoch ∧ hour.span before epoch = 0 ∧ (hour.units before epoch).length = 2 ∧
      hour.room before epoch = 2) ∧
    (epoch ≤ last ∧ hour.span epoch last = 0 ∧ (hour.units epoch last).length = 1) ∧
    options.bounds last range = .ok (before, epoch) ∧
    ∃ r, options.report last [] range = .ok r ∧ r.buckets.length ≤ 2 := by
  intro before epoch last options range
  have hleap : ¬before.IsLeap ∧ ¬epoch.IsLeap ∧ ¬last.IsLeap := by decide
  have hearly : before ≤ epoch := by decide
  have hlate : epoch ≤ last := by decide
  have hspan : hour.span before epoch = 0 := by decide
  have hspan' : hour.span epoch last = 0 := by decide
  have hphase : hour.phase epoch < hour.phase before := by decide
  have hphase' : hour.phase epoch ≤ hour.phase last := by decide
  obtain ⟨hunits, hbound⟩ := units_fit_span hour before epoch
  obtain ⟨hlength, hroom, -⟩ := hunits hearly
  obtain ⟨hlength', -⟩ := (units_fit_span hour epoch last).1 hlate
  have hlength := hlength hleap.1 hleap.2.1
  have hlength' := hlength' hleap.2.1 hleap.2.2
  have hb : options.bounds last range = .ok (before, epoch) := by decide +kernel
  have hrows : options.onMalformed = .abort → ∀ s ∈ ([] : List Sample), s.IsTimed :=
    fun _ _ hs => nomatch hs
  obtain ⟨r, hr⟩ := SeriesOptions.exists_report hb hrows
  refine ⟨hleap, ⟨hearly, hspan, by omega, by omega⟩, ⟨hlate, hspan', by omega⟩, hb, r, hr, ?_⟩
  exact ((hbound 0 (Int.le_of_eq hspan)).2 options last [] range r rfl hb hr).2 hleap.1

/-- **In a leap second the span is off by one.** At the end of 2016 the last minute, with its leap
second counted, makes up a span of one and is one unit. From the end of the leap second on to one
minute past the new year no whole minute fits, and there are three units, more than the room. -/
theorem span_in_leap_second :
    let minuteBefore : Instant := ⟨1483228740, 0, by decide, by decide, by decide⟩
    let leap : Instant := ⟨1483228799, 1300000000, by decide, by decide, by decide⟩
    let leapEnd : Instant := ⟨1483228799, 1999999999, by decide, by decide, by decide⟩
    let minuteAfter : Instant := ⟨1483228860, 0, by decide, by decide, by decide⟩
    (minuteBefore ≤ leap ∧ minute.span minuteBefore leap = 1 ∧
      (minute.units minuteBefore leap).length = 1) ∧
    (leapEnd ≤ minuteAfter ∧ minute.span leapEnd minuteAfter = 0 ∧
      (minute.units leapEnd minuteAfter).length = 3 ∧ minute.room leapEnd minuteAfter = 2) := by
  intro minuteBefore leap leapEnd minuteAfter
  have hend : minuteBefore ≤ leap := by decide
  have hstart : leapEnd ≤ minuteAfter := by decide
  have hone : minute.ordinal leap - minute.ordinal minuteBefore + 1 = 1 := by decide
  have hthree : minute.ordinal minuteAfter - minute.ordinal leapEnd + 1 = 3 := by decide
  have hlength := length_units (u := minute) hend
  have hlength' := length_units (u := minute) hstart
  exact ⟨⟨hend, by decide, by omega⟩, hstart, by decide, by omega, by decide⟩

end CalendarUnit

end ChartData
