import ChartData.Proofs.CalendarFields
import ChartData.Series.Dense

/-!
# One pass over the rows and a scan for each unit

A dense series is made by going through the rows once and indexing them by the ordinals of their
units. What it is meant to be is simpler and slower: for each unit of the range, go through all the
rows, and take the first one whose time can be read and falls in the unit (`SeriesOptions.scan`).

That the two agree (`SeriesOptions.report_buckets_eq_scan`) comes down to one invariant of the pass.
A tally *covers* the rows it has gone through when, at the ordinal of any instant, it holds the
value of the first of them that falls in the unit of the instant (`Tally.Covers`). A row of a unit
that is taken changes neither side, a row of a free unit changes both at that unit alone, and a row
without a time changes neither.
-/

namespace ChartData

/-! ## The series by scanning -/

/-- **Whether a row falls in the unit of an instant**: it has a time that can be read, and the two
share the unit. -/
def Sample.FallsIn (u : CalendarUnit) (t : Instant) (s : Sample) : Prop :=
  ∃ time, s.instant = .ok time ∧ u.Shared time t

/-- A row with a time falls in the units of the instants that share its unit. -/
theorem Sample.fallsIn_iff_of_ok {u : CalendarUnit} {t time : Instant} {s : Sample}
    (h : s.instant = .ok time) : s.FallsIn u t ↔ u.Shared time t := by
  constructor
  · rintro ⟨time', h', hs⟩
    cases h.symm.trans h'
    exact hs
  · intro hs
    exact ⟨time, h, hs⟩

/-- A row without a time falls in no unit. -/
theorem Sample.not_fallsIn_of_error {u : CalendarUnit} {t : Instant} {s : Sample} {e : Error}
    (h : s.instant = .error e) : ¬s.FallsIn u t := by
  rintro ⟨time, hok, _⟩
  rw [h] at hok
  cases hok

instance (u : CalendarUnit) (t : Instant) (s : Sample) : Decidable (s.FallsIn u t) :=
  match h : s.instant with
  | .ok _ => decidable_of_iff _ (Sample.fallsIn_iff_of_ok h).symm
  | .error _ => isFalse (Sample.not_fallsIn_of_error h)

/-- **The first row that falls in the unit of an instant**, in the order in which the rows came. -/
def firstIn? (u : CalendarUnit) (t : Instant) (samples : List Sample) : Option Sample :=
  samples.find? fun s => s.FallsIn u t

/-- There is no first row in a unit where no row falls in it. -/
theorem firstIn?_eq_none_iff {u : CalendarUnit} {t : Instant} {samples : List Sample} :
    firstIn? u t samples = none ↔ ∀ s ∈ samples, ¬s.FallsIn u t := by
  unfold firstIn?
  rw [List.find?_eq_none]
  simp only [decide_eq_true_iff]

/-- The first row among rows and one more. -/
theorem firstIn?_append_singleton (u : CalendarUnit) (t : Instant) (samples : List Sample)
    (s : Sample) :
    firstIn? u t (samples ++ [s]) =
      (firstIn? u t samples).or (if s.FallsIn u t then some s else none) := by
  unfold firstIn?
  rw [List.find?_append]
  by_cases h : s.FallsIn u t <;> simp [h]

/-- **The dense series by scanning**: for each unit of the range the value of the first row that
falls in it, and the fill where no row does. -/
def SeriesOptions.scan (options : SeriesOptions) (first last : Instant) (samples : List Sample) :
    List Bucket :=
  (options.unit.units first last).map fun t =>
    ⟨t,
      match firstIn? options.unit t samples with
      | some s => some s.value
      | none => options.fill?⟩

/-! ## What one row does to the tally -/

namespace Tally

variable {options : SeriesOptions} {samples : List Sample} {s : Sample} {t t' : Tally}

/-- **All that a row can do**: be placed at the ordinal of its time, or, where it has none and rows
without a time are passed over, be counted. -/
theorem add_cases (h : t.add options s = .ok t') :
    (∃ time, s.instant = .ok time ∧ t' = t.place (options.unit.ordinal time) s.value) ∨
      (∃ e, s.instant = .error e ∧ options.onMalformed = .skip ∧
        t' = { t with skipped := t.skipped + 1 }) := by
  unfold add at h
  split at h
  · next time hs =>
    cases h
    exact .inl ⟨_, hs, rfl⟩
  · next e hs hp =>
    cases h
    exact .inr ⟨e, hs, hp, rfl⟩
  · cases h

/-- **What placing a value leaves at an ordinal**: what was there, and where nothing was, the value
if it is its ordinal. -/
theorem index_place (t : Tally) (ordinal k : Int) (value : Binary64) :
    (t.place ordinal value).index[k]? =
      t.index[k]?.or (if ordinal = k then some value else none) := by
  unfold place
  split
  · next hm =>
    by_cases hk : ordinal = k
    · subst hk
      rw [if_pos rfl, Std.HashMap.getElem?_eq_some_getElem hm]
      rfl
    · rw [if_neg hk, Option.or_none]
  · next hm =>
    show (t.index.insert ordinal value)[k]? = _
    rw [Std.HashMap.getElem?_insert]
    by_cases hk : ordinal = k
    · subst hk
      rw [Std.HashMap.getElem?_eq_none hm]
      simp
    · simp [hk]

/-! ## The invariant -/

/-- **A tally covers rows** when, at the ordinal of any instant, it holds the value of the first of
them that falls in the unit of the instant. -/
def Covers (u : CalendarUnit) (t : Tally) (samples : List Sample) : Prop :=
  ∀ time, t.index[u.ordinal time]? = (firstIn? u time samples).map Sample.value

/-- Nothing covers no rows. -/
theorem covers_empty (u : CalendarUnit) : empty.Covers u [] := by
  intro time
  exact Std.HashMap.getElem?_empty

/-- **One more row is covered.** -/
theorem Covers.add (hc : t.Covers options.unit samples) (h : t.add options s = .ok t') :
    t'.Covers options.unit (samples ++ [s]) := by
  intro time
  rw [firstIn?_append_singleton, Option.map_or, ← hc time]
  rcases add_cases h with ⟨rowTime, hs, rfl⟩ | ⟨e, hs, -, rfl⟩
  · -- the row is at the ordinal of exactly the instants whose unit it falls in
    rw [index_place]
    by_cases hk : options.unit.ordinal rowTime = options.unit.ordinal time
    · rw [if_pos hk,
        if_pos ((Sample.fallsIn_iff_of_ok hs).2 (CalendarUnit.shared_iff_ordinal_eq.2 hk))]
      rfl
    · rw [if_neg hk, if_neg fun hf =>
        hk (CalendarUnit.shared_iff_ordinal_eq.1 ((Sample.fallsIn_iff_of_ok hs).1 hf))]
      rfl
  · rw [if_neg (Sample.not_fallsIn_of_error hs)]
    exact (Option.or_none).symm

/-- **What every row preserves, a pass preserves**: what holds of a tally and the rows before it,
and goes on to hold with each row more, holds of the tally after the pass and all rows. -/
theorem foldlM_induction {motive : Tally → List Sample → Prop}
    (step : ∀ {t t' : Tally} {samples : List Sample} {s : Sample}, motive t samples →
      t.add options s = .ok t' → motive t' (samples ++ [s]))
    {rows : List Sample} (hm : motive t samples)
    (h : rows.foldlM (Tally.add options) t = .ok t') : motive t' (samples ++ rows) := by
  induction rows generalizing t samples with
  | nil =>
    cases h
    rw [List.append_nil]
    exact hm
  | cons s rows ih =>
    rw [List.foldlM_cons] at h
    cases hs : t.add options s with
    | error e =>
      rw [hs] at h
      cases h
    | ok next =>
      rw [hs] at h
      have := ih (step hm hs) h
      rwa [List.append_assoc] at this

/-- **A pass covers its rows.** -/
theorem covers_of_ofSamples (h : ofSamples options samples = .ok t) :
    t.Covers options.unit samples :=
  foldlM_induction Covers.add (covers_empty options.unit) h

/-- **A pass that passes over rows without a time has a tally.** -/
theorem exists_foldlM_of_skip (hp : options.onMalformed = .skip) (rows : List Sample) (t : Tally) :
    ∃ t', rows.foldlM (Tally.add options) t = .ok t' := by
  induction rows generalizing t with
  | nil => exact ⟨t, rfl⟩
  | cons s rows ih =>
    have hs : ∃ next, t.add options s = .ok next := by
      unfold add
      rw [hp]
      cases s.instant with
      | ok time => exact ⟨_, rfl⟩
      | error e => exact ⟨_, rfl⟩
    obtain ⟨next, hnext⟩ := hs
    obtain ⟨t', ht'⟩ := ih next
    refine ⟨t', ?_⟩
    rw [List.foldlM_cons, hnext]
    exact ht'

end Tally

/-! ## The series -/

namespace SeriesOptions

variable {options : SeriesOptions} {now first last : Instant} {samples : List Sample}
  {range : DateRange} {r : Report}

/-- **What a report is made of**: a range that stands for two instants, and a tally of the rows. -/
theorem report_eq_ok_iff :
    options.report now samples range = .ok r ↔
      ∃ first last tally, options.bounds now range = .ok (first, last) ∧
        Tally.ofSamples options samples = .ok tally ∧
        r = {
          buckets := (options.unit.units first last).map (options.bucket tally.index)
          unit := options.unit
          matched := (options.unit.units first last).countP fun time =>
            options.unit.ordinal time ∈ tally.index
          skipped := tally.skipped
          duplicates := tally.duplicates } := by
  unfold report
  cases options.bounds now range with
  | error e => simp [bind, Except.bind]
  | ok bounds =>
    cases Tally.ofSamples options samples with
    | error e => simp [bind, Except.bind]
    | ok tally =>
      obtain ⟨first, last⟩ := bounds
      constructor
      · intro h
        exact ⟨first, last, tally, rfl, rfl, (Except.ok.inj h).symm⟩
      · rintro ⟨_, _, _, hb, ht, rfl⟩
        cases hb
        cases ht
        rfl

/-- **The buckets made from a tally** are those found by scanning the rows of the tally. -/
theorem map_bucket_eq_scan {tally : Tally} (ht : Tally.ofSamples options samples = .ok tally)
    (first last : Instant) :
    (options.unit.units first last).map (options.bucket tally.index) =
      options.scan first last samples := by
  refine List.map_congr_left fun t _ => ?_
  unfold bucket
  rw [Tally.covers_of_ofSamples ht t]
  cases firstIn? options.unit t samples with
  | none => rfl
  | some s => rfl

/-- **Where rows without a time are passed over, a range that stands for two instants has a
report**, with the buckets found by scanning the rows. -/
theorem exists_report_of_skip_eq_scan (hp : options.onMalformed = .skip)
    (hb : options.bounds now range = .ok (first, last)) (samples : List Sample) :
    ∃ r, options.report now samples range = .ok r ∧
      r.buckets = options.scan first last samples := by
  obtain ⟨tally, ht⟩ := Tally.exists_foldlM_of_skip hp samples .empty
  exact ⟨_, report_eq_ok_iff.2 ⟨first, last, tally, hb, ht, rfl⟩, map_bucket_eq_scan ht first last⟩

/-- Where rows without a time are passed over, a range that stands for two instants has a report. -/
theorem exists_report_of_skip (hp : options.onMalformed = .skip)
    (hb : options.bounds now range = .ok (first, last)) (samples : List Sample) :
    ∃ r, options.report now samples range = .ok r := by
  obtain ⟨r, hr, -⟩ := exists_report_of_skip_eq_scan hp hb samples
  exact ⟨r, hr⟩

/-- **One pass is as good as a scan for each unit.** Whatever the rows are – before 1970, outside
the range, without a time, several to a unit – the buckets of a report are those found by going
through all the rows for each unit of the range. -/
theorem report_buckets_eq_scan (hb : options.bounds now range = .ok (first, last))
    (h : options.report now samples range = .ok r) :
    r.buckets = options.scan first last samples := by
  obtain ⟨first', last', tally, hb', ht, rfl⟩ := report_eq_ok_iff.1 h
  cases hb.symm.trans hb'
  exact map_bucket_eq_scan ht first last

/-- Of the rows around the beginning of 1970, one has a time that is none and one has no time, two
fall in the last day of 1969 and one falls outside the range. -/
theorem report_buckets_around_1970 :
    let options : SeriesOptions := { (default : SeriesOptions) with fill? := none }
    let eve : Instant := ⟨-86400, 0, by decide, by decide, by decide⟩
    let epoch : Instant := ⟨0, 0, by decide, by decide, by decide⟩
    let samples : List Sample :=
      [⟨some "yesterday", .finite .zero⟩, ⟨some "1969-12-31 23:30:00", .finite .one⟩,
        ⟨none, .finite .zero⟩, ⟨some "1969-12-31 01:00:00", .finite .zero⟩,
        ⟨some "2024-01-01 00:00:00", .finite .zero⟩]
    let range : DateRange := ⟨some "1969-12-31", some "1970-01-01"⟩
    options.bounds epoch range = .ok (eve, epoch) ∧
      ∃ r, options.report epoch samples range = .ok r ∧
        r.buckets = [⟨eve, some (.finite .one)⟩, ⟨epoch, none⟩] := by
  intro options eve epoch samples range
  have hb : options.bounds epoch range = .ok (eve, epoch) := rfl
  obtain ⟨r, hr⟩ := exists_report_of_skip rfl hb samples
  refine ⟨hb, r, hr, ?_⟩
  rw [report_buckets_eq_scan hb hr]
  decide +kernel

end SeriesOptions

end ChartData
