import ChartData.Proofs.OpenRanges
import ChartData.Proofs.TimestampText

/-!
# What a range takes from its bounds

The units of a range depend on the units that its bounds are in and on nothing else of the bounds
(`CalendarUnit.units_congr`): beginnings are told by their ordinals, and those of a range are
consecutive from one ordinal to another. Two things follow.

A range between two instants is written in whole seconds, and what is lost of the instants is of no
account. A unit has a whole number of seconds, so an instant and its whole second are in the same
unit; and of two instants in order the whole seconds are in order. What the range does not survive
is a bound in a leap second, since the second that is written then is not that of the bound
(`SeriesOptions.report_ofInstants`).

A range can be cut in two wherever one unit ends and the next begins, no matter where in these units
the cut is said to be, and the parts have the units of the whole. What a report says of the rows
does not depend on the range, so the reports of the parts are the report of the whole, with the
buckets side by side and the matches added up (`SeriesOptions.reports_of_parts`).
-/

namespace ChartData

namespace CalendarUnit

variable {u : CalendarUnit} {first first' last last' cut next : Instant}

/-- **A list of beginnings is told by its ordinals.** -/
theorem eq_of_map_ordinal_eq {ts ts' : List Instant} (hts : ∀ t ∈ ts, u.Begins t)
    (hts' : ∀ t ∈ ts', u.Begins t) (h : ts.map u.ordinal = ts'.map u.ordinal) : ts = ts' := by
  have hlength : ts.length = ts'.length := by simpa using congrArg List.length h
  refine List.ext_getElem hlength fun i hi hi' => ?_
  refine (hts _ (List.getElem_mem hi)).eq_of_ordinal_eq (hts' _ (List.getElem_mem hi')) ?_
  have hplace := List.getElem_of_eq h (by rwa [List.length_map])
  rwa [List.getElem_map, List.getElem_map] at hplace

/-- **All that the units of a range take from its bounds** is which units these are in. -/
theorem units_congr (h : first ≤ last) (h' : first' ≤ last')
    (hfirst : u.ordinal first = u.ordinal first') (hlast : u.ordinal last = u.ordinal last') :
    u.units first last = u.units first' last' := by
  refine eq_of_map_ordinal_eq (fun _ => begins_of_mem_units) (fun _ => begins_of_mem_units) ?_
  rw [map_ordinal_units h, map_ordinal_units h', hfirst, hlast]

/-- **The units of two ranges, one of which ends in the unit before the other begins**, are those of
the range from the beginning of the one to the end of the other. -/
theorem units_append (hfirst : first ≤ cut) (hlast : next ≤ last)
    (hnext : u.ordinal next = u.ordinal cut + 1) :
    u.units first cut ++ u.units next last = u.units first last := by
  have hbefore := u.ordinal_le_of_le hfirst
  have hafter := u.ordinal_le_of_le hlast
  have hle : first ≤ last := by
    have hcut : ¬next ≤ cut := fun hle => by
      have := u.ordinal_le_of_le hle
      omega
    rw [Instant.le_def] at *
    omega
  refine eq_of_map_ordinal_eq (fun t ht => ?_) (fun _ => begins_of_mem_units) ?_
  · exact (List.mem_append.mp ht).elim begins_of_mem_units begins_of_mem_units
  · -- the ordinals of the second range go on counting where those of the first one end
    have hcount : (u.ordinal last + 1 - u.ordinal first).toNat =
        (u.ordinal cut + 1 - u.ordinal first).toNat +
          (u.ordinal last + 1 - u.ordinal next).toNat := by omega
    rw [List.map_append, map_ordinal_units hfirst, map_ordinal_units hlast, map_ordinal_units hle,
      hcount, List.range_add, List.map_append, List.map_map]
    refine congrArg _ (List.map_congr_left fun i _ => ?_)
    show u.ordinal next + (i : Int) =
      u.ordinal first + (((u.ordinal cut + 1 - u.ordinal first).toNat + i : Nat) : Int)
    omega

end CalendarUnit

/-! ## Bounds in whole seconds -/

/-- Of two instants in order the whole seconds are in order. -/
theorem Instant.wholeSecond_le_of_le {s t : Instant} (h : s ≤ t) :
    s.wholeSecond ≤ t.wholeSecond :=
  wholeSecond_le_iff.mpr (seconds_le_of_le h)

namespace SeriesOptions

variable {options : SeriesOptions} {first cut next last : Instant} {samples : List Sample}

/-- The bounds of a range between two instants are read back as their whole seconds exactly where
neither is in a leap second. -/
theorem bounds_ofInstants_eq_ok_iff (options : SeriesOptions) (now : Instant)
    (hfirst : IsFourDigitYear first.date.year) (hlast : IsFourDigitYear last.date.year) :
    options.bounds now (.ofInstants (some first) (some last)) =
        .ok (first.wholeSecond, last.wholeSecond) ↔ ¬first.IsLeap ∧ ¬last.IsLeap := by
  rw [bounds_ofInstants, ← readTimestamp_format_eq_ok_iff hfirst,
    ← readTimestamp_format_eq_ok_iff hlast]
  cases readTimestamp (Pattern.timestamp.format first) with
  | error e => exact ⟨nofun, nofun⟩
  | ok first' =>
    cases readTimestamp (Pattern.timestamp.format last) with
    | error e => exact ⟨nofun, nofun⟩
    | ok last' =>
      show Except.ok (first', last') = .ok (first.wholeSecond, last.wholeSecond) ↔ _
      rw [Except.ok.injEq, Except.ok.injEq, Except.ok.injEq, Prod.mk.injEq]

/-- **A range between two instants covers what the instants cover**, in the years that have four
digits and away from leap seconds. Its bounds stand for the whole seconds of the instants exactly
where neither is in a leap second, and then its report has a bucket for each unit from the first
instant through the last, as if nothing had been lost of them. There is such a report if rows
without a time are passed over or there are none. With a leap second at the end of a minute for a
bound the range stands for nothing, since no day has the time that is written. -/
theorem report_ofInstants (options : SeriesOptions) (now : Instant)
    (hfirst : IsFourDigitYear first.date.year) (hlast : IsFourDigitYear last.date.year) :
    let range := DateRange.ofInstants (some first) (some last)
    (options.bounds now range = .ok (first.wholeSecond, last.wholeSecond) ↔
      ¬first.IsLeap ∧ ¬last.IsLeap) ∧
    (first.IsLeap → first.second = 59 → options.bounds now range =
      .error (.unreadableTimestamp (Pattern.timestamp.format first) .noSuchTime)) ∧
    (¬first.IsLeap → last.IsLeap → last.second = 59 → options.bounds now range =
      .error (.unreadableTimestamp (Pattern.timestamp.format last) .noSuchTime)) ∧
    (¬first.IsLeap → ¬last.IsLeap → first ≤ last → ∀ samples,
      (∀ r, options.report now samples range = .ok r →
        r.buckets.map Bucket.time = options.unit.units first last) ∧
      ((options.onMalformed = .abort → ∀ s ∈ samples, s.IsTimed) →
        ∃ r, options.report now samples range = .ok r)) := by
  intro range
  have hbounds := bounds_ofInstants_eq_ok_iff options now hfirst hlast
  refine ⟨hbounds, fun hleap hsecond => ?_, fun hnot hleap hsecond => ?_,
    fun hleap hleap' hle samples => ?_⟩
  · rw [bounds_ofInstants, readTimestamp_format_of_isLeap hfirst hleap hsecond]
    rfl
  · rw [bounds_ofInstants, (readTimestamp_format_eq_ok_iff hfirst).mpr hnot,
      readTimestamp_format_of_isLeap hlast hleap hsecond]
    rfl
  · have hb := hbounds.mpr ⟨hleap, hleap'⟩
    refine ⟨fun r hr => ?_, exists_report hb⟩
    rw [map_time_report hb hr]
    exact CalendarUnit.units_congr (Instant.wholeSecond_le_of_le hle) hle rfl rfl

/-- From the middle of the last second of 1969 into the first nanosecond of 1970 there are two
minutes, and between two nanoseconds of the same second there is one. -/
theorem report_ofInstants_around_1970 :
    let options : SeriesOptions := { (default : SeriesOptions) with unit := .minute }
    let before : Instant := ⟨-1, 500000000, by decide, by decide, by decide⟩
    let last : Instant := ⟨-1, 999999999, by decide, by decide, by decide⟩
    let after : Instant := ⟨0, 1, by decide, by decide, by decide⟩
    let minute : Instant := ⟨-60, 0, by decide, by decide, by decide⟩
    let next : Instant := ⟨0, 0, by decide, by decide, by decide⟩
    IsFourDigitYear before.date.year ∧ IsFourDigitYear last.date.year ∧
      IsFourDigitYear after.date.year ∧ (¬before.IsLeap ∧ ¬last.IsLeap ∧ ¬after.IsLeap) ∧
      before ≤ after ∧ before ≤ last ∧
      (∃ r, options.report after [] (.ofInstants (some before) (some after)) = .ok r ∧
        r.buckets.map Bucket.time = [minute, next]) ∧
      ∃ r, options.report after [] (.ofInstants (some before) (some last)) = .ok r ∧
        r.buckets.map Bucket.time = [minute] := by
  intro options before last after minute next
  have hbefore : IsFourDigitYear before.date.year := by decide +kernel
  have hlast : IsFourDigitYear last.date.year := by decide +kernel
  have hafter : IsFourDigitYear after.date.year := by decide +kernel
  have hleap : ¬before.IsLeap ∧ ¬last.IsLeap ∧ ¬after.IsLeap := by decide
  have hacross : before ≤ after := by decide
  have hwithin : before ≤ last := by decide
  obtain ⟨-, -, -, htwo⟩ := report_ofInstants options after hbefore hafter
  obtain ⟨-, -, -, hone⟩ := report_ofInstants options after hbefore hlast
  have htwo' := htwo hleap.1 hleap.2.2 hacross []
  have hone' := hone hleap.1 hleap.2.1 hwithin []
  obtain ⟨r, hr⟩ := htwo'.2 nofun
  obtain ⟨r', hr'⟩ := hone'.2 nofun
  refine ⟨hbefore, hlast, hafter, hleap, hacross, hwithin, ⟨r, hr, ?_⟩, r', hr', ?_⟩
  · rw [htwo'.1 r hr]
    decide +kernel
  · rw [hone'.1 r' hr']
    decide +kernel

/-- **A range up to the leap second at the end of 2016 stands for nothing**: the bound is written
with a second 60. -/
theorem report_ofInstants_in_leap_second :
    let first : Instant := ⟨1483228740, 0, by decide, by decide, by decide⟩
    let last : Instant := ⟨1483228799, 1300000000, by decide, by decide, by decide⟩
    first ≤ last ∧ IsFourDigitYear first.date.year ∧ IsFourDigitYear last.date.year ∧
      (DateRange.ofInstants (some first) (some last)).last? = some "2016-12-31 23:59:60" ∧
      (default : SeriesOptions).bounds last (.ofInstants (some first) (some last)) =
        .error (.unreadableTimestamp "2016-12-31 23:59:60" .noSuchTime) := by
  intro first last
  have hfirst : IsFourDigitYear first.date.year := by decide +kernel
  have hlast : IsFourDigitYear last.date.year := by decide +kernel
  have htext : Pattern.timestamp.format last = "2016-12-31 23:59:60" := by decide +kernel
  refine ⟨by decide, hfirst, hlast, congrArg some htext, ?_⟩
  rw [bounds_ofInstants, (readTimestamp_format_eq_ok_iff hfirst).mpr (by decide),
    readTimestamp_format_of_isLeap hlast (by decide) (by decide), htext]
  rfl

/-! ## Parts of a range -/

/-- **Cutting a range between two units loses nothing and repeats nothing.** Let one range end in
the unit before the one that another range begins in. Then their units are those of the range that
the two make up. The same goes for reports, whatever is read as these ranges and whenever, if rows
without a time are passed over or there are none: the buckets of the two ranges are the buckets of
the whole, the matches add up, and the rows skipped and the duplicates are the same for all three,
since rows are counted wherever they fall. -/
theorem reports_of_parts (u : CalendarUnit) (hfirst : first ≤ cut) (hlast : next ≤ last)
    (hnext : u.ordinal next = u.ordinal cut + 1) :
    u.units first cut ++ u.units next last = u.units first last ∧
    ∀ (options : SeriesOptions) (samples : List Sample), options.unit = u →
      (options.onMalformed = .abort → ∀ s ∈ samples, s.IsTimed) →
      ∀ {now₁ now₂ now : Instant} {range₁ range₂ range : DateRange},
        options.bounds now₁ range₁ = .ok (first, cut) →
        options.bounds now₂ range₂ = .ok (next, last) →
        options.bounds now range = .ok (first, last) →
        ∃ r₁ r₂ r, options.report now₁ samples range₁ = .ok r₁ ∧
          options.report now₂ samples range₂ = .ok r₂ ∧
          options.report now samples range = .ok r ∧
          r₁.buckets ++ r₂.buckets = r.buckets ∧ r₁.matched + r₂.matched = r.matched ∧
          (r₁.skipped = r.skipped ∧ r₂.skipped = r.skipped) ∧
          r₁.duplicates = r.duplicates ∧ r₂.duplicates = r.duplicates := by
  have happend := CalendarUnit.units_append hfirst hlast hnext
  refine ⟨happend, ?_⟩
  rintro options samples rfl hrows now₁ now₂ now range₁ range₂ range hb₁ hb₂ hb
  obtain ⟨t, ht⟩ := Tally.exists_ofSamples hrows
  refine ⟨_, _, _, report_of_ofSamples_eq_ok ht hb₁, report_of_ofSamples_eq_ok ht hb₂,
    report_of_ofSamples_eq_ok ht hb, ?_, ?_, ⟨rfl, rfl⟩, rfl, rfl⟩
  · unfold reportOfTally
    rw [← happend, List.map_append]
  · unfold reportOfTally
    rw [← happend, List.countP_append]

/-- From the noon of the last day of 1969 to the next morning, cut from ten at night to seven: two
rows are of the first day, one is of the second and one of neither, and one has no time. -/
theorem reports_of_parts_cut_at_1970 :
    let options : SeriesOptions := default
    let eve : Instant := ⟨-43200, 0, by decide, by decide, by decide⟩
    let cut : Instant := ⟨-7200, 0, by decide, by decide, by decide⟩
    let next : Instant := ⟨25200, 0, by decide, by decide, by decide⟩
    let morning : Instant := ⟨32400, 0, by decide, by decide, by decide⟩
    let samples : List Sample :=
      [⟨some "1969-12-31 23:30:00", .finite .one⟩, ⟨some "2024-01-01 00:00:00", .finite .zero⟩,
        ⟨some "1970-01-01 00:00:00", .finite .zero⟩, ⟨none, .finite .zero⟩,
        ⟨some "1969-12-31 01:00:00", .finite .zero⟩]
    let range₁ : DateRange := ⟨some "1969-12-31 12:00:00", some "1969-12-31 22:00:00"⟩
    let range₂ : DateRange := ⟨some "1970-01-01 07:00:00", none⟩
    let range : DateRange := ⟨some "1969-12-31 12:00:00", none⟩
    eve ≤ cut ∧ next ≤ morning ∧
      options.unit.ordinal next = options.unit.ordinal cut + 1 ∧
      (options.onMalformed = .abort → ∀ s ∈ samples, s.IsTimed) ∧
      options.bounds morning range₁ = .ok (eve, cut) ∧
      options.bounds morning range₂ = .ok (next, morning) ∧
      options.bounds morning range = .ok (eve, morning) ∧
      ∃ r₁ r₂ r, options.report morning samples range₁ = .ok r₁ ∧
        options.report morning samples range₂ = .ok r₂ ∧
        options.report morning samples range = .ok r ∧
        r₁.buckets ++ r₂.buckets = r.buckets ∧ r₁.matched + r₂.matched = r.matched ∧
        r₁.skipped = r.skipped ∧ r₂.duplicates = r.duplicates := by
  intro options eve cut next morning samples range₁ range₂ range
  have hfirst : eve ≤ cut := by decide
  have hlast : next ≤ morning := by decide
  have hnext : options.unit.ordinal next = options.unit.ordinal cut + 1 := by decide
  have hrows : options.onMalformed = .abort → ∀ s ∈ samples, s.IsTimed := nofun
  have hb₁ : options.bounds morning range₁ = .ok (eve, cut) := rfl
  have hb₂ : options.bounds morning range₂ = .ok (next, morning) := rfl
  have hb : options.bounds morning range = .ok (eve, morning) := rfl
  obtain ⟨r₁, r₂, r, hr₁, hr₂, hr, hbuckets, hmatched, ⟨hskipped, -⟩, -, hduplicates⟩ :=
    (reports_of_parts options.unit hfirst hlast hnext).2 options samples rfl hrows hb₁ hb₂ hb
  exact ⟨hfirst, hlast, hnext, hrows, hb₁, hb₂, hb, r₁, r₂, r, hr₁, hr₂, hr, hbuckets, hmatched,
    hskipped, hduplicates⟩

end SeriesOptions

end ChartData
