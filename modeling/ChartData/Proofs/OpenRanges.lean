import ChartData.Proofs.RowPermutation

/-!
# Ranges without bounds

A range without bounds ends now and begins as many days earlier as the settings say. All that can go
wrong with it is that there is no such instant, and then the report says so; otherwise there is a
report, if rows without a time are passed over or there are none (`SeriesOptions.report_unbounded`).

How many units the range has does not depend on what time it is now, with one exception. A unit is a
whole part of a day, so the instant some days earlier lies in the unit that many units earlier, at
the same place in it (`CalendarUnit.ordinal_of_daysEarlier`). The units of the days are thus
complete, and one more is there at the end: the one that now is in. The exception are leap seconds
at the end of a unit. Days before a leap second there is none, and its place is taken by the second
after it, which begins the next unit. So the range begins a unit later, and the one more is missing.

Where a range has a first bound nobody looks back, and whatever is wrong with the range or the rows
is wrong with the text of a time (`SeriesOptions.exists_fault_of_first`).
-/

namespace ChartData

/-! ## Days earlier -/

/-- **An instant some days before another one** is as many seconds earlier, unless the other one is
in a leap second. Then it is in the second that comes after that time of day. -/
theorem Instant.seconds_of_daysEarlier {t now : Instant} {days : Int} (hdays : 0 ≤ days)
    (h : now.later? (-(days * 86400 * 1000000000)) = some t) :
    t.seconds = now.seconds + (if now.IsLeap ∧ 0 < days then 1 else 0) - days * 86400 := by
  rcases Int.lt_or_eq_of_le hdays with hpos | rfl
  · rw [later?_of_le (by omega), ofTicks?_eq_some_iff] at h
    obtain ⟨hticks, hleap⟩ := h
    have := now.nanos_lt
    unfold IsLeap at hleap ⊢
    unfold ticks at hticks
    split <;> omega
  · rw [show -((0 : Int) * 86400 * 1000000000) = 0 by decide, later?_zero] at h
    obtain rfl := Option.some.inj h
    simp

namespace CalendarUnit

/-- **Whether the second of an instant is the last of its unit**, so that the next one begins a
unit. -/
def IsLastSecond (u : CalendarUnit) (t : Instant) : Prop := (t.seconds + 1) % u.seconds = 0

instance (u : CalendarUnit) (t : Instant) : Decidable (u.IsLastSecond t) :=
  inferInstanceAs (Decidable ((t.seconds + 1) % u.seconds = 0))

/-- The second after an instant is in the same unit or begins the next one. -/
theorem ordinal_succ (u : CalendarUnit) (t : Instant) :
    (t.seconds + 1) / u.seconds = u.ordinal t + if u.IsLastSecond t then 1 else 0 := by
  by_cases h : u.IsLastSecond t
  · rw [if_pos h]
    unfold IsLastSecond at h
    cases u <;> simp only [ordinal, seconds] at * <;> omega
  · rw [if_neg h]
    unfold IsLastSecond at h
    cases u <;> simp only [ordinal, seconds] at * <;> omega

/-- **Days earlier is units earlier**, since a unit is a whole part of a day. -/
theorem ordinal_of_daysEarlier (u : CalendarUnit) {t : Instant} {seconds days : Int}
    (h : t.seconds = seconds - days * 86400) :
    u.ordinal t = seconds / u.seconds - days * (86400 / u.seconds) := by
  have hday : 86400 / u.seconds * u.seconds = 86400 := Int.ediv_mul_cancel u.seconds_dvd
  calc u.ordinal t
      = (seconds + -(days * (86400 / u.seconds)) * u.seconds) / u.seconds := by
        unfold ordinal
        rw [h, Int.neg_mul, Int.mul_assoc, hday, Int.sub_eq_add_neg]
    _ = seconds / u.seconds + -(days * (86400 / u.seconds)) :=
        Int.add_mul_ediv_right _ _ (Int.ne_of_gt u.seconds_pos)
    _ = seconds / u.seconds - days * (86400 / u.seconds) := Int.sub_eq_add_neg.symm

/-- **Days earlier is a unit less**, if one comes from a leap second at the end of a unit. -/
theorem ordinal_of_later?_eq_some (u : CalendarUnit) {t now : Instant} {days : Int}
    (hdays : 0 ≤ days) (h : now.later? (-(days * 86400 * 1000000000)) = some t) :
    u.ordinal t = u.ordinal now - days * (86400 / u.seconds) +
      if now.IsLeap ∧ u.IsLastSecond now ∧ 0 < days then 1 else 0 := by
  rw [u.ordinal_of_daysEarlier (Instant.seconds_of_daysEarlier hdays h)]
  by_cases hleap : now.IsLeap ∧ 0 < days
  · rw [if_pos hleap, ordinal_succ]
    by_cases hlast : u.IsLastSecond now
    · rw [if_pos hlast, if_pos ⟨hleap.1, hlast, hleap.2⟩]
      omega
    · rw [if_neg hlast, if_neg fun h => hlast h.2.1]
      omega
  · rw [if_neg hleap, if_neg fun h => hleap ⟨h.1, h.2.2⟩, Int.add_zero, Int.add_zero]
    rfl

end CalendarUnit

/-! ## What is wrong with a time -/

/-- **Two steps fail in the first or in the second.** -/
theorem eq_error_or_of_bind_eq_error {α β ε : Type} {x : Except ε α} {f : α → Except ε β} {e : ε}
    (h : x >>= f = .error e) : x = .error e ∨ ∃ a, x = .ok a ∧ f a = .error e := by
  cases x with
  | error cause => exact .inl (congrArg _ (Except.error.inj h))
  | ok a => exact .inr ⟨a, rfl, h⟩

theorem exists_fault_of_readBound {s : String} {e : Error} (h : readBound s = .error e) :
    ∃ text fault, e = .unreadableTimestamp text fault := by
  unfold readBound at h
  dsimp only at h
  split at h
  · obtain ⟨fault, -, he⟩ := refuse_eq_error_iff.mp h
    exact ⟨_, fault, he⟩
  · obtain ⟨fault, -, he⟩ := refuse_eq_error_iff.mp h
    exact ⟨_, fault, he⟩

namespace Tally

variable {options : SeriesOptions} {t : Tally} {e : Error}

/-- A row that a pass fails at has no time. -/
theorem instant_of_add_eq_error {s : Sample} (h : t.add options s = .error e) :
    s.instant = .error e := by
  unfold add at h
  split at h
  · cases h
  · cases h
  · next cause hs _ =>
    cases h
    exact hs

/-- **A pass fails at the text of a time**, if it fails. -/
theorem exists_fault_of_foldlM {rows : List Sample}
    (h : rows.foldlM (add options) t = .error e) :
    ∃ text fault, e = .unreadableTimestamp text fault := by
  induction rows generalizing t with
  | nil => cases h
  | cons s rows ih =>
    rw [List.foldlM_cons] at h
    rcases eq_error_or_of_bind_eq_error h with hs | ⟨next, -, hrest⟩
    · exact ⟨_, Sample.exists_fault_of_error (instant_of_add_eq_error hs)⟩
    · exact ih hrest

end Tally

namespace SeriesOptions

variable {options : SeriesOptions} {now first last : Instant} {samples : List Sample}
  {range : DateRange} {r : Report} {e : Error}

/-- **What a report fails with** is what is wrong with the range, or with the time of a row. -/
theorem bounds_or_fault_of_report_eq_error (h : options.report now samples range = .error e) :
    options.bounds now range = .error e ∨ ∃ text fault, e = .unreadableTimestamp text fault := by
  unfold report at h
  rcases eq_error_or_of_bind_eq_error h with hb | ⟨bounds, -, h⟩
  · exact .inl hb
  rcases eq_error_or_of_bind_eq_error h with ht | ⟨tally, -, h⟩
  · exact .inr (Tally.exists_fault_of_foldlM ht)
  · cases h

/-- A range with a first bound that stands for nothing has a bound that cannot be read. -/
theorem exists_fault_of_bounds {text : String} {last? : Option String}
    (h : options.bounds now ⟨some text, last?⟩ = .error e) :
    ∃ text fault, e = .unreadableTimestamp text fault := by
  unfold bounds at h
  rcases eq_error_or_of_bind_eq_error h with hfirst | ⟨first, -, h⟩
  · exact exists_fault_of_readBound hfirst
  cases last? with
  | none => cases h
  | some text' =>
    rcases eq_error_or_of_bind_eq_error h with hlast | ⟨last, -, h⟩
    · exact exists_fault_of_readBound hlast
    · cases h

/-- **A range with a first bound** fails at the text of a time, if it fails. -/
theorem exists_fault_of_first {text : String} {last? : Option String}
    (h : options.report now samples ⟨some text, last?⟩ = .error e) :
    ∃ text fault, e = .unreadableTimestamp text fault :=
  (bounds_or_fault_of_report_eq_error h).elim exists_fault_of_bounds id

/-! ## Looking back -/

/-- A range without bounds begins earlier than now by as much as is looked back. -/
theorem bounds_default_of_some (h : now.later? (-options.lookback) = some first) :
    options.bounds now default = .ok (first, now) := by
  unfold bounds
  simp only [show (default : DateRange) = ⟨none, none⟩ from rfl, h]
  rfl

/-- A range without bounds stands for nothing where no instant is that early. -/
theorem bounds_default_of_none (h : now.later? (-options.lookback) = none) :
    options.bounds now default =
      .error (.lookbackTooFar (options.lookback.tdiv 1000000000)) := by
  unfold bounds
  simp only [show (default : DateRange) = ⟨none, none⟩ from rfl, h]
  rfl

/-- The times of the buckets of a report are the units of its range. -/
theorem map_time_report (hb : options.bounds now range = .ok (first, last))
    (h : options.report now samples range = .ok r) :
    r.buckets.map Bucket.time = options.unit.units first last := by
  obtain ⟨first', last', tally, hb', -, rfl⟩ := report_eq_ok_iff.1 h
  cases hb.symm.trans hb'
  rw [List.map_map]
  exact List.map_id _

/-- **A range that stands for two instants has a report** if rows without a time are passed over or
there are none. -/
theorem exists_report (hb : options.bounds now range = .ok (first, last))
    (hrows : options.onMalformed = .abort → ∀ s ∈ samples, s.IsTimed) :
    ∃ r, options.report now samples range = .ok r := by
  obtain ⟨tally, ht⟩ := Tally.exists_ofSamples hrows
  exact ⟨_, report_of_ofSamples_eq_ok ht hb⟩

/-- **The report of a range without bounds**, where the options say to look back by days. -/
theorem report_default_of_some {days : Int} (hnonneg : 0 ≤ days)
    (hdays : options.lookback = days * 86400 * 1000000000)
    (hrows : options.onMalformed = .abort → ∀ s ∈ samples, s.IsTimed)
    (h : now.later? (-options.lookback) = some first) :
    ∃ r, options.report now samples default = .ok r ∧
      (r.buckets.length : Int) =
        (if now.IsLeap ∧ options.unit.IsLastSecond now ∧ 0 < days then
          days * (86400 / options.unit.seconds)
        else days * (86400 / options.unit.seconds) + 1) ∧
      r.buckets.head?.map Bucket.time = some (options.unit.floor first) ∧
      r.buckets.getLast?.map Bucket.time = some (options.unit.floor now) := by
  have hb := bounds_default_of_some h
  rw [hdays] at h
  have hle : first ≤ now := by
    rcases Int.lt_or_eq_of_le hnonneg with hpos | rfl
    · have hseconds := Instant.seconds_of_daysEarlier hnonneg h
      rw [Instant.le_def]
      split at hseconds <;> omega
    · rw [show -((0 : Int) * 86400 * 1000000000) = 0 by decide, Instant.later?_zero] at h
      obtain rfl := Option.some.inj h
      exact .inr ⟨rfl, Nat.le_refl _⟩
  obtain ⟨r, hr⟩ := exists_report hb hrows
  have htimes := map_time_report hb hr
  refine ⟨r, hr, ?_, ?_, ?_⟩
  · rw [← List.length_map Bucket.time, htimes, CalendarUnit.length_units hle,
      options.unit.ordinal_of_later?_eq_some hnonneg h]
    split <;> omega
  · rw [← List.head?_map, htimes, CalendarUnit.head?_units hle]
  · rw [← List.getLast?_map, htimes, CalendarUnit.getLast?_units hle]

/-- What settings say to look back, in nanoseconds. -/
theorem lookback_ofSettings (settings : SeriesSettings) :
    (ofSettings settings).lookback =
      (settings.lookbackDays.toNat : Int) * 86400 * 1000000000 := rfl

/-- **A range without bounds** has a report unless the days to look back leave the representable
times, and then the report says how many seconds it was to look back. The report begins with the
unit of the instant that many days before now, to the nanosecond, and ends with the unit of now: the
buckets are the units of the days and one more. The one more is missing if days are looked back from
a leap second at the end of a unit. A range with a first bound never looks back. -/
theorem report_unbounded (settings : SeriesSettings) (now : Instant)
    (hrows : ∀ s ∈ samples, s.IsTimed) :
    let days : Int := settings.lookbackDays.toNat
    ((ofSettings settings).report now samples default = .error (.lookbackTooFar (86400 * days)) ↔
      now.ticks - days * 86400 * 1000000000 < firstSecond * 1000000000) ∧
    (¬now.ticks - days * 86400 * 1000000000 < firstSecond * 1000000000 →
      ∃ r first, (ofSettings settings).report now samples default = .ok r ∧
        now.later? (-(days * 86400 * 1000000000)) = some first ∧
        first.ticks = now.ticks - days * 86400 * 1000000000 ∧
        (r.buckets.length : Int) =
          (if now.IsLeap ∧ settings.unit.IsLastSecond now ∧ 0 < days then
            days * (86400 / settings.unit.seconds)
          else days * (86400 / settings.unit.seconds) + 1) ∧
        r.buckets.head?.map Bucket.time = some (settings.unit.floor first) ∧
        r.buckets.getLast?.map Bucket.time = some (settings.unit.floor now)) ∧
    ∀ (options : SeriesOptions) now samples text last? seconds,
      options.report now samples ⟨some text, last?⟩ ≠ .error (.lookbackTooFar seconds) := by
  intro days
  have hlookback : (ofSettings settings).lookback = days * 86400 * 1000000000 :=
    lookback_ofSettings settings
  have hnonneg : 0 ≤ days := Int.natCast_nonneg _
  have hnonpos : -(ofSettings settings).lookback ≤ 0 := by omega
  have hnone : now.later? (-(ofSettings settings).lookback) = none ↔ _ :=
    Instant.later?_eq_none_iff_of_nonpos hnonpos
  rw [← Int.sub_eq_add_neg, hlookback] at hnone
  refine ⟨?_, ?_, ?_⟩
  · rw [← hnone]
    constructor
    · intro herror
      cases hl : now.later? (-(ofSettings settings).lookback) with
      | none => rwa [hlookback] at hl
      | some first =>
        obtain ⟨r, hr, -⟩ := report_default_of_some hnonneg hlookback (fun _ => hrows) hl
        cases hr.symm.trans herror
    · intro hl
      rw [← hlookback] at hl
      have hreport : (ofSettings settings).report now samples default = _ :=
        report_of_bounds_eq_error (bounds_default_of_none hl) settings.onMalformed samples
      rw [hreport, hlookback, Int.mul_tdiv_cancel _ (by decide), Int.mul_comm]
  · intro hnot
    rw [← hnone] at hnot
    obtain ⟨first, hfirst⟩ := Option.ne_none_iff_exists'.mp hnot
    have hl : now.later? (-(ofSettings settings).lookback) = some first := by rwa [hlookback]
    obtain ⟨r, hr, hbuckets⟩ := report_default_of_some hnonneg hlookback (fun _ => hrows) hl
    refine ⟨r, first, hr, hfirst, ?_, hbuckets⟩
    rw [Instant.ticks_of_later?_eq_some hfirst (by omega), Int.sub_eq_add_neg]
  · intro options now samples text last? seconds h
    obtain ⟨text', fault, he⟩ := exists_fault_of_first h
    cases he

/-- In the last nanosecond of 1969, two days of hours and the hour that has begun, and more days
than there are. -/
theorem report_unbounded_before_1970 :
    let settings : SeriesSettings :=
      { (default : SeriesSettings) with unit := .hour, lookbackDays := 2, onMalformed := .abort }
    let tooFar : SeriesSettings := { settings with lookbackDays := 4294967295 }
    let now : Instant := ⟨-1, 999999999, by decide, by decide, by decide⟩
    let hour : Instant := ⟨-176400, 0, by decide, by decide, by decide⟩
    let samples : List Sample := [⟨some "1969-12-31 23:30:00", .finite .one⟩]
    (∀ s ∈ samples, s.IsTimed) ∧
      (∃ r, (ofSettings settings).report now samples default = .ok r ∧ r.buckets.length = 49 ∧
        r.buckets.head?.map Bucket.time = some hour) ∧
      (ofSettings tooFar).report now samples default =
        .error (.lookbackTooFar (86400 * 4294967295)) := by
  intro settings tooFar now hour samples
  have hrows : ∀ s ∈ samples, s.IsTimed := by decide +kernel
  obtain ⟨r, first, hr, hfirst, -, hlength, hhead, -⟩ :=
    (report_unbounded settings now hrows).2.1 (by decide)
  have hstart : now.later? (-(2 * 86400 * 1000000000)) =
      some ⟨-172801, 999999999, by decide, by decide, by decide⟩ := by decide
  have hfloor : settings.unit.floor first = hour := by
    rw [Option.some.inj (hfirst.symm.trans hstart)]
    decide
  have hdays : tooFar.lookbackDays.toNat = 4294967295 := by decide
  have hfar := (report_unbounded tooFar now hrows).1.mpr
  rw [hdays] at hfar
  exact ⟨hrows, ⟨r, hr, Int.ofNat.inj hlength, hfloor ▸ hhead⟩, hfar (by decide)⟩

/-- **Looking back one day from the leap second at the end of 2016** leads to the first second of
its last day, and the report has one day where the units of the days and one more would be two. -/
theorem report_unbounded_in_leap_second :
    let settings : SeriesSettings := { (default : SeriesSettings) with lookbackDays := 1 }
    let now : Instant := ⟨1483228799, 1300000000, by decide, by decide, by decide⟩
    let first : Instant := ⟨1483142400, 300000000, by decide, by decide, by decide⟩
    now.later? (-(1 * 86400 * 1000000000)) = some first ∧
      settings.lookbackDays.toNat * (86400 / settings.unit.seconds) + 1 = 2 ∧
      ∃ r, (ofSettings settings).report now [] default = .ok r ∧ r.buckets.length = 1 := by
  intro settings now first
  have hl : now.later? (-(1 * 86400 * 1000000000)) = some first := by decide
  have hrows : (ofSettings settings).onMalformed = .abort → ∀ s ∈ ([] : List Sample), s.IsTimed :=
    fun _ _ hs => nomatch hs
  obtain ⟨r, hr, hlength, -⟩ := report_default_of_some (Int.zero_le_ofNat 1)
    (lookback_ofSettings settings) hrows hl
  rw [if_pos (by decide)] at hlength
  exact ⟨hl, by decide, r, hr, Int.ofNat.inj hlength⟩

end SeriesOptions

end ChartData
