import ChartData.Proofs.ChartGaps
import ChartData.Proofs.RangeBounds
import Mathlib.Data.List.Find

/-!
# Dense series as rows

A dense series can be taken for rows again, one for each bucket (`Bucket.row`): the time is written
as the store writes it, and the value is that of the bucket. Made into a series over the same range,
these rows give back the series, as long as there are no gaps in it and its years have four digits
(`SeriesOptions.reportOfRows_dense`).

The buckets of a series begin their units. So their times have no part of a second and are read back
as they were, no two of them are in the same unit, and all units of the range are there. With that
the rows have one for each unit of the range, and what a report says of such rows is plain: it has
their values, each of them matched, and there is nothing to skip and nothing to drop
(`SeriesOptions.report_of_units`).
-/

namespace ChartData

variable {u : CalendarUnit} {first last t : Instant}

/-! ## One row for each unit -/

section OneForEachUnit

variable {row : Instant → Sample}

/-- **The unit of an instant of a range is the only one with its ordinal.** -/
theorem CalendarUnit.find?_units (ht : t ∈ u.units first last) :
    (u.units first last).find? (fun s => u.ordinal s = u.ordinal t) = some t := by
  cases hfind : (u.units first last).find? fun s => u.ordinal s = u.ordinal t with
  | none => simpa using List.find?_eq_none.mp hfind t ht
  | some s =>
    have hordinal : u.ordinal s = u.ordinal t := by simpa using List.find?_some hfind
    exact congrArg some (List.inj_on_of_nodup_map (u.nodup_map_ordinal_units first last)
      (List.mem_of_find?_eq_some hfind) ht hordinal)

/-- Rows with one for each unit have a time. -/
theorem isTimed_of_mem_map_units (hrow : ∀ s ∈ u.units first last, (row s).instant = .ok s) :
    ∀ s ∈ (u.units first last).map row, s.IsTimed := by
  intro s hs
  obtain ⟨time, htime, rfl⟩ := List.mem_map.mp hs
  exact ⟨time, hrow time htime⟩

/-- Of rows with one for each unit, the first in a unit is that of the unit. -/
theorem firstIn?_units (hrow : ∀ s ∈ u.units first last, (row s).instant = .ok s)
    (ht : t ∈ u.units first last) :
    firstIn? u t ((u.units first last).map row) = some (row t) := by
  have hfind : (u.units first last).find? (fun s => (row s).ordinal? u = some (u.ordinal t)) =
      some t := by
    refine Eq.trans (List.find?_congr fun s hs => decide_eq_decide.mpr ?_)
      (CalendarUnit.find?_units ht)
    rw [Sample.ordinal?_of_ok (hrow s hs), Option.some.injEq]
  rw [firstIn?_eq_find?, List.find?_map]
  exact congrArg (Option.map row) hfind

/-- The units that these rows take are those of the range. -/
theorem card_takenOrdinals_units (hrow : ∀ s ∈ u.units first last, (row s).instant = .ok s) :
    (takenOrdinals u ((u.units first last).map row)).card = (u.units first last).length := by
  have hordinals : ((u.units first last).map row).filterMap (Sample.ordinal? u) =
      (u.units first last).map u.ordinal := by
    rw [List.filterMap_map, ← List.filterMap_eq_map]
    exact List.filterMap_congr fun s hs => Sample.ordinal?_of_ok (hrow s hs)
  unfold takenOrdinals
  rw [hordinals, List.toFinset_card_of_nodup (u.nodup_map_ordinal_units first last),
    List.length_map]

/-- **A pass over one row for each unit** skips none of them and drops none. -/
theorem Tally.Accounts.counts_of_units {tally : Tally}
    (ha : tally.Accounts u ((u.units first last).map row))
    (hrow : ∀ s ∈ u.units first last, (row s).instant = .ok s) :
    tally.skipped = 0 ∧ tally.duplicates = 0 := by
  have hskipped := ha.skipped_eq_zero (isTimed_of_mem_map_units hrow)
  have htotal := ha.total
  rw [card_takenOrdinals_units hrow, List.length_map] at htotal
  exact ⟨hskipped, by omega⟩

/-- **The report of one row for each unit** of the range has the values of the rows, all of them
matched. -/
theorem SeriesOptions.report_of_units {options : SeriesOptions} {now : Instant} {range : DateRange}
    (hb : options.bounds now range = .ok (first, last))
    (hrow : ∀ s ∈ options.unit.units first last, (row s).instant = .ok s) :
    options.report now ((options.unit.units first last).map row) range = .ok {
      buckets := (options.unit.units first last).map fun s => ⟨s, some (row s).value⟩
      unit := options.unit
      matched := (options.unit.units first last).length
      skipped := 0
      duplicates := 0 } := by
  have htally : ∃ tally, Tally.ofSamples options ((options.unit.units first last).map row) =
      .ok tally := Tally.exists_ofSamples fun _ => isTimed_of_mem_map_units hrow
  obtain ⟨tally, ht⟩ := htally
  obtain ⟨hskipped, hduplicates⟩ := (Tally.accounts_of_ofSamples ht).counts_of_units hrow
  have hindex : ∀ s ∈ options.unit.units first last,
      tally.index[options.unit.ordinal s]? = some (row s).value := by
    intro s hs
    rw [Tally.covers_of_ofSamples ht, firstIn?_units hrow hs]
    rfl
  have hbuckets : (options.unit.units first last).map (options.bucket tally.index) =
      (options.unit.units first last).map fun s => ⟨s, some (row s).value⟩ := by
    refine List.map_congr_left fun s hs => ?_
    unfold bucket
    rw [hindex s hs]
    rfl
  have hmatched : (options.unit.units first last).countP
        (fun s => options.unit.ordinal s ∈ tally.index) =
      (options.unit.units first last).length := by
    refine List.countP_eq_length.mpr fun s hs => decide_eq_true ?_
    rw [Std.HashMap.mem_iff_isSome_getElem?, hindex s hs]
    rfl
  rw [report_of_ofSamples_eq_ok ht hb]
  unfold reportOfTally
  rw [hbuckets, hmatched, hskipped, hduplicates]

end OneForEachUnit

/-! ## Buckets as rows -/

/-- **A bucket as a row**: its time as the store writes it, and its value. -/
def Bucket.row (b : Bucket) : TypedRow := ⟨Pattern.timestamp.format b.time, b.value?⟩

/-- **The beginning of a unit is read back from the row of its bucket**, if its year has four
digits. -/
theorem Bucket.instant_sample_row {b : Bucket} (h : u.Begins b.time)
    (hyear : IsFourDigitYear b.time.date.year) : b.row.sample.instant = .ok b.time := by
  have hwhole : b.time.wholeSecond = b.time := Instant.ext_iff.mpr ⟨rfl, h.2.symm⟩
  have hread := (readTimestamp_format_eq_ok_iff hyear).mpr h.not_isLeap
  exact hread.trans (congrArg _ hwhole)

namespace SeriesOptions

variable {options : SeriesOptions} {now : Instant} {samples : List Sample} {range : DateRange}
  {r : Report} {x : Finite64}

/-- Where the fill and the values of the rows are finite, a bucket has a value, and its row has the
same. -/
theorem value?_bucket_eq {tally : Tally} (hfill : options.fill? = some (.finite x))
    (hc : tally.Covers options.unit samples) (hfinite : ∀ s ∈ samples, ∃ x, s.value = .finite x)
    (time : Instant) :
    (options.bucket tally.index time).value? =
      some (options.bucket tally.index time).row.sample.value := by
  have hvalue := hc.value?_bucket time
  obtain ⟨y, hy⟩ : ∃ y, (options.bucket tally.index time).value? = some (.finite y) := by
    rw [hvalue, hfill]
    cases hs : firstIn? options.unit time samples with
    | none => exact ⟨x, rfl⟩
    | some s =>
      obtain ⟨y, hy⟩ := hfinite s (List.mem_of_find?_eq_some hs)
      exact ⟨y, congrArg some hy⟩
  unfold Bucket.row TypedRow.sample
  rw [hy]
  rfl

/-- The series of the buckets of a report, where the values of the samples are finite. -/
theorem reportOfRows_dense_of_finite (hfill : options.fill? = some (.finite x))
    (hfinite : ∀ s ∈ samples, ∃ x, s.value = .finite x)
    (h : options.report now samples range = .ok r)
    (hyears : ∀ b ∈ r.buckets, IsFourDigitYear b.time.date.year) :
    options.reportOfRows now (r.buckets.map Bucket.row) range =
      .ok { r with matched := r.buckets.length, skipped := 0, duplicates := 0 } := by
  obtain ⟨first, last, tally, hb, ht, rfl⟩ := report_eq_ok_iff.mp h
  have hc := Tally.covers_of_ofSamples ht
  let row (s : Instant) : Sample := (options.bucket tally.index s).row.sample
  have hrow : ∀ s ∈ options.unit.units first last, (row s).instant = .ok s := by
    intro s hs
    exact Bucket.instant_sample_row (CalendarUnit.begins_of_mem_units hs)
      (hyears _ (List.mem_map_of_mem hs))
  have hbuckets : (options.unit.units first last).map (options.bucket tally.index) =
      (options.unit.units first last).map fun s => ⟨s, some (row s).value⟩ := by
    refine List.map_congr_left fun s _ => ?_
    rw [← value?_bucket_eq hfill hc hfinite]
    rfl
  have hreport := report_of_units hb hrow
  unfold reportOfRows
  rw [List.map_map, List.map_map, List.length_map]
  rw [← hbuckets] at hreport
  exact hreport

/-- **A dense series without gaps is the series of its buckets.** Let the fill be a finite number,
and take the buckets of a report for rows: a report of rows of known type, of rows of data, or of
any samples that have finite values. If their years have four digits, there is a report of these
rows over the same range and at the same time, with the same buckets. Every one of them is matched,
no row is skipped and none is a duplicate. -/
theorem reportOfRows_dense (hfill : options.fill? = some (.finite x))
    (h : (∃ rows : List TypedRow, options.reportOfRows now rows range = .ok r) ∨
      (∃ rows : List Json, options.reportOfData now rows range = .ok r) ∨
      ∃ samples : List Sample, (∀ s ∈ samples, ∃ x, s.value = .finite x) ∧
        options.report now samples range = .ok r)
    (hyears : ∀ b ∈ r.buckets, IsFourDigitYear b.time.date.year) :
    options.reportOfRows now (r.buckets.map Bucket.row) range =
      .ok { r with matched := r.buckets.length, skipped := 0, duplicates := 0 } := by
  rcases h with ⟨rows, h⟩ | ⟨rows, h⟩ | ⟨samples, hfinite, h⟩
  · exact reportOfRows_dense_of_finite hfill
      (TypedRow.exists_finite_of_mem_map_sample rows) h hyears
  · exact reportOfRows_dense_of_finite hfill
      (Json.exists_finite_of_mem_map_sample _ _ rows) h hyears
  · exact reportOfRows_dense_of_finite hfill hfinite h hyears

/-- Three days around the beginning of 1970, where two rows share a day, one has no time and one is
outside the range: taken for rows, the three buckets are matched, and nothing is skipped or dropped.
-/
theorem reportOfRows_dense_around_1970 :
    let options : SeriesOptions := default
    let eve : Instant := ⟨-86400, 0, by decide, by decide, by decide⟩
    let noon : Instant := ⟨-43200, 0, by decide, by decide, by decide⟩
    let epoch : Instant := ⟨0, 0, by decide, by decide, by decide⟩
    let next : Instant := ⟨86400, 0, by decide, by decide, by decide⟩
    let rows : List TypedRow :=
      [⟨"1969-12-31 23:30:00", some (.finite .one)⟩, ⟨"yesterday", some (.finite .one)⟩,
        ⟨"1969-12-31 01:00:00", none⟩, ⟨"2024-01-01 00:00:00", some .nan⟩]
    let range : DateRange := ⟨some "1969-12-31 12:00:00", some "1970-01-02"⟩
    let buckets : List Bucket :=
      [⟨eve, some (.finite .one)⟩, ⟨epoch, some (.finite .zero)⟩, ⟨next, some (.finite .zero)⟩]
    options.fill? = some (.finite .zero) ∧ options.bounds epoch range = .ok (noon, next) ∧
      (∃ r, options.reportOfRows epoch rows range = .ok r ∧ r.buckets = buckets) ∧
      (∀ b ∈ buckets, IsFourDigitYear b.time.date.year) ∧
      buckets.map Bucket.row =
        [⟨"1969-12-31 00:00:00", some (.finite .one)⟩,
          ⟨"1970-01-01 00:00:00", some (.finite .zero)⟩,
          ⟨"1970-01-02 00:00:00", some (.finite .zero)⟩] ∧
      ∃ r, options.reportOfRows epoch (buckets.map Bucket.row) range = .ok r ∧
        r.buckets = buckets ∧ r.matched = 3 ∧ r.skipped = 0 ∧ r.duplicates = 0 := by
  intro options eve noon epoch next rows range buckets
  have hfill : options.fill? = some (.finite .zero) := by decide +kernel
  have hb : options.bounds epoch range = .ok (noon, next) := rfl
  obtain ⟨r, hr, hscan⟩ := exists_report_of_skip_eq_scan rfl hb (rows.map TypedRow.sample)
  have hbuckets : r.buckets = buckets := hscan.trans (by decide +kernel)
  have hyears : ∀ b ∈ buckets, IsFourDigitYear b.time.date.year := by decide +kernel
  have hdense := reportOfRows_dense hfill (.inl ⟨rows, hr⟩) (hbuckets ▸ hyears)
  rw [hbuckets] at hdense
  exact ⟨hfill, hb, ⟨r, hr, hbuckets⟩, hyears, by decide +kernel, _, hdense, rfl, rfl, rfl, rfl⟩

end SeriesOptions

end ChartData
