import ChartData.Proofs.RowIndex
import ChartData.Proofs.UnitRange

/-!
# Gaps in charts

In the data that a chart is drawn from (`Report.envelope`), a gap is a point whose value is null.
But null is also how a number that is not finite would be written, and a count that is too large for
an integer of data. So a null can be taken for a gap only because neither gets that far.

Whatever a row has for a value – not-a-number, infinity, the text of a number beyond all finite
ones, something that is no number – what a series takes from it is a finite number. The fill may be
anything, but it is only looked at where no row falls in the unit. And no range is so long that the
number of its units would not fit (`CalendarUnit.length_units_lt`). Therefore a point is a gap
exactly if no row falls in its unit and the fill is not a finite number (`Json.ShowsUnit`), and the
gaps of a chart can be counted in either of two ways (`SeriesOptions.charts_tell_gaps`).
-/

namespace ChartData

/-! ## Reading a chart -/

namespace Json

/-- The count that the value is, if it is one. -/
def count? : Json → Option Nat
  | number n => n.toUInt64?.map UInt64.toNat
  | _ => none

/-- The items of the value, if it is a list. -/
def items? : Json → Option (List Json)
  | array items => some items
  | _ => none

/-- **The points of a chart.** -/
def points? (chart : Json) : Option (List Json) := (chart.entry? "points").bind items?

/-- **The number of points that a chart says it has.** -/
def bucketCount? (chart : Json) : Option Nat := (chart.entry? "bucket_count").bind count?

/-- **The number of points that a chart says have the value of a row.** -/
def matchedBuckets? (chart : Json) : Option Nat :=
  (chart.entry? "_meta").bind fun accounting => (accounting.entry? "matched_buckets").bind count?

/-- **Whether a point of a chart is a gap**: its value is null. -/
def isGap (point : Json) : Bool :=
  match point.entry? "value" with
  | some null => true
  | _ => false

/-- A number is written as the integer that it is, where it fits. -/
theorem ofNat_of_ofInt {n : Nat} {value : JsonNumber} (h : JsonNumber.ofInt n = some value) :
    ofNat n = number value := by
  -- unfolded as a function: the bounds of an applied one would be counted down to
  obtain ⟨f, hf⟩ : ∃ f, f = ofNat := ⟨_, rfl⟩
  rw [← hf]
  delta ofNat at hf
  rw [hf]
  dsimp only
  rw [h]

/-- A number of 64 bits is written as a count. -/
theorem count?_ofNat {n : Nat} (h : n < UInt64.size) : (ofNat n).count? = some n := by
  have hword : (UInt64.ofNat n).toNat = n := UInt64.toNat_ofNat_of_lt' h
  have hbounds : -0x8000000000000000 ≤ (n : Int) ∧ (n : Int) < 0x10000000000000000 := by
    unfold UInt64.size at h
    omega
  have hnumber : JsonNumber.ofInt n = some (.ofUInt64 (UInt64.ofNat n)) := by
    unfold JsonNumber.ofInt JsonNumber.ofUInt64
    rw [dif_pos hbounds]
    simp only [hword]
  rw [ofNat_of_ofInt hnumber]
  unfold count?
  dsimp only
  rw [JsonNumber.toUInt64?_ofUInt64, Option.map_some, hword]

/-- **A point shows the unit of an instant**, in a series made of samples. It has the time and, if a
row falls in the unit, the number of the first such row. It is a gap only if no row does and the
fill is not a finite number. -/
structure ShowsUnit (options : SeriesOptions) (samples : List Sample) (t : Instant)
    (point : Json) : Prop where
  /-- The point has the time. -/
  time : point.entry? "time" = some (.string (Pattern.utc.format t))
  /-- The point has the number of the first row in the unit, which is a finite one. -/
  row : ∀ s, firstIn? options.unit t samples = some s →
    ∃ x, s.value = .finite x ∧ point.entry? "value" = some (.number (.real x))
  /-- The point has the fill if there is no row in the unit and the fill is a finite number. -/
  fill : firstIn? options.unit t samples = none → ∀ x, options.fill? = some (.finite x) →
    point.entry? "value" = some (.number (.real x))
  /-- The point is a gap exactly if no row is in the unit and the fill is not a finite number. -/
  isGap_iff : point.isGap = true ↔
    (∀ s ∈ samples, ¬s.FallsIn options.unit t) ∧ ∀ x, options.fill? ≠ some (.finite x)

end Json

/-- **The chart of a report tells its gaps**, with the given points and made of samples. -/
structure Report.TellsGaps (options : SeriesOptions) (samples : List Sample) (r : Report)
    (points : List Json) : Prop where
  /-- The points are those of the chart. -/
  points_eq : r.envelope.points? = some points
  /-- There are as many as the chart says. -/
  count_eq : r.envelope.bucketCount? = some points.length
  /-- The points show the units of the buckets, one by one. -/
  shows : List.Forall₂ (fun bucket point => point.ShowsUnit options samples bucket.time)
    r.buckets points
  /-- Without a fill, those that are no gaps are as many as the chart says were matched. -/
  matched_eq : options.fill? = none →
    r.envelope.matchedBuckets? = some (points.countP fun point => !point.isGap)
  /-- With a finite fill there are no gaps. -/
  filled : ∀ x, options.fill? = some (.finite x) → ∀ point ∈ points, point.isGap = false

/-! ## Counts -/

namespace Json

variable {name other : String} {value : Json} {entries : List (String × Json)}

/-- An entry is found where it is the first. -/
@[simp] theorem entry?_cons_self :
    entry? name (object ((name, value) :: entries)) = some value := by
  unfold entry?
  simp

/-- Other entries are passed over. -/
@[simp] theorem entry?_cons_of_ne (h : other ≠ name) :
    entry? name (object ((other, value) :: entries)) = entry? name (object entries) := by
  unfold entry?
  simp [h]

end Json

namespace Report

/-- The chart of a report says how many buckets there are. -/
theorem bucketCount?_envelope {r : Report} (h : r.buckets.length < UInt64.size) :
    r.envelope.bucketCount? = some r.buckets.length := by
  have hentry : r.envelope.entry? "bucket_count" = some (.ofNat r.buckets.length) := by
    unfold envelope
    simp
  unfold Json.bucketCount?
  rw [hentry, Option.bind_some, Json.count?_ofNat h]

/-- The chart of a report says how many buckets were matched. -/
theorem matchedBuckets?_envelope {r : Report} (h : r.matched < UInt64.size) :
    r.envelope.matchedBuckets? = some r.matched := by
  have haccounting : r.envelope.entry? "_meta" = some (.object r.accounting) := by
    unfold envelope
    simp
  have hentry : Json.entry? "matched_buckets" (.object r.accounting) = some (.ofNat r.matched) := by
    unfold accounting
    simp
  unfold Json.matchedBuckets?
  rw [haccounting, Option.bind_some, hentry, Option.bind_some, Json.count?_ofNat h]

end Report

/-- **The number of units of a range** is that of an integer of data. -/
theorem CalendarUnit.length_units_lt (u : CalendarUnit) (first last : Instant) :
    (u.units first last).length < UInt64.size := by
  unfold UInt64.size
  by_cases h : first ≤ last
  · have hlength := length_units (u := u) h
    have := u.ordinal_sub_lt first last
    omega
  · unfold units
    rw [if_neg h]
    decide

/-! ## Points -/

/-- The value of the point of a bucket. -/
theorem Bucket.entry?_value_toJson (b : Bucket) :
    b.toJson.entry? "value" = some ((b.value?.map Json.ofBinary64).getD .null) := rfl

/-- **The point of a bucket is a gap** unless the bucket has a finite number. -/
theorem Bucket.isGap_toJson (b : Bucket) :
    b.toJson.isGap = true ↔ ∀ x, b.value? ≠ some (.finite x) := by
  unfold Json.isGap
  rw [entry?_value_toJson]
  rcases b.value? with _ | x | negative | _
  · simp
  · simp [Json.ofBinary64]
  · simp [Json.ofBinary64]
  · simp [Json.ofBinary64]

namespace Tally.Covers

variable {options : SeriesOptions} {samples : List Sample} {tally : Tally}

/-- A unit has a value in a tally if a row falls in it. -/
theorem mem_index_iff (hc : tally.Covers options.unit samples) (t : Instant) :
    options.unit.ordinal t ∈ tally.index ↔ ∃ s ∈ samples, s.FallsIn options.unit t := by
  rw [Std.HashMap.mem_iff_isSome_getElem?, hc t, Option.isSome_map, Option.isSome_iff_ne_none, Ne,
    firstIn?_eq_none_iff]
  simp only [not_forall, not_not, exists_prop]

/-- The value of a bucket, from a tally of rows. -/
theorem value?_bucket (hc : tally.Covers options.unit samples) (t : Instant) :
    (options.bucket tally.index t).value? =
      ((firstIn? options.unit t samples).map Sample.value).or options.fill? := by
  show (tally.index[options.unit.ordinal t]?).or options.fill? = _
  rw [hc t]

/-- **The point of a bucket shows its unit**, if the values of the samples are finite. -/
theorem showsUnit (hc : tally.Covers options.unit samples)
    (hfinite : ∀ s ∈ samples, ∃ x, s.value = .finite x) (t : Instant) :
    (options.bucket tally.index t).toJson.ShowsUnit options samples t where
  time := rfl
  row s hs := by
    obtain ⟨x, hx⟩ := hfinite s (List.mem_of_find?_eq_some hs)
    rw [Bucket.entry?_value_toJson, hc.value?_bucket t, hs, Option.map_some, hx]
    exact ⟨x, rfl, rfl⟩
  fill hs x hx := by
    rw [Bucket.entry?_value_toJson, hc.value?_bucket t, hs, hx]
    rfl
  isGap_iff := by
    rw [Bucket.isGap_toJson, hc.value?_bucket t, ← firstIn?_eq_none_iff]
    cases hs : firstIn? options.unit t samples with
    | some s =>
      obtain ⟨x, hx⟩ := hfinite s (List.mem_of_find?_eq_some hs)
      simp [hx]
    | none => simp

end Tally.Covers

namespace Json.ShowsUnit

variable {options : SeriesOptions} {samples : List Sample} {t : Instant} {point : Json}

/-- Without a fill a point has a value if a row falls in its unit. -/
theorem not_isGap_iff (h : point.ShowsUnit options samples t) (hfill : options.fill? = none) :
    (!point.isGap) = true ↔ ∃ s ∈ samples, s.FallsIn options.unit t := by
  have hnone : ∀ x, options.fill? ≠ some (.finite x) := fun x hx => by
    rw [hfill] at hx
    cases hx
  rw [Bool.not_eq_true', ← Bool.not_eq_true, h.isGap_iff]
  constructor
  · intro hgap
    by_contra hrow
    exact hgap ⟨fun s hs hfalls => hrow ⟨s, hs, hfalls⟩, hnone⟩
  · rintro ⟨s, hs, hfalls⟩ hgap
    exact hgap.1 s hs hfalls

/-- With a finite fill a point is no gap. -/
theorem isGap_eq_false (h : point.ShowsUnit options samples t) {x : Finite64}
    (hfill : options.fill? = some (.finite x)) : point.isGap = false := by
  rw [← Bool.not_eq_true, h.isGap_iff]
  exact fun hgap => hgap.2 x hfill

end Json.ShowsUnit

/-! ## Charts -/

/-- **What a series takes from rows of known type is finite.** -/
theorem TypedRow.exists_finite_of_mem_map_sample (rows : List TypedRow) :
    ∀ s ∈ rows.map sample, ∃ x, s.value = .finite x := by
  intro s hs
  obtain ⟨row, -, rfl⟩ := List.mem_map.mp hs
  exact ⟨_, rfl⟩

/-- **What a series takes from rows of data is finite.** -/
theorem Json.exists_finite_of_mem_map_sample (timestampField valueField : String)
    (rows : List Json) :
    ∀ s ∈ rows.map (Json.sample timestampField valueField), ∃ x, s.value = .finite x := by
  intro s hs
  obtain ⟨row, -, rfl⟩ := List.mem_map.mp hs
  exact ⟨_, rfl⟩

/-- The points of a chart are those of the buckets. -/
theorem Report.TellsGaps.eq_map_toJson {options : SeriesOptions} {samples : List Sample}
    {r : Report} {points : List Json} (h : r.TellsGaps options samples points) :
    points = r.buckets.map Bucket.toJson :=
  Option.some.inj h.points_eq.symm

namespace SeriesOptions

variable {options : SeriesOptions} {now : Instant} {samples : List Sample} {range : DateRange}
  {r : Report}

/-- **The chart of a report tells its gaps**, if the values of the samples are finite. -/
theorem exists_tellsGaps (hfinite : ∀ s ∈ samples, ∃ x, s.value = .finite x)
    (h : options.report now samples range = .ok r) :
    ∃ points, r.TellsGaps options samples points := by
  obtain ⟨first, last, tally, -, ht, rfl⟩ := report_eq_ok_iff.mp h
  have hc := Tally.covers_of_ofSamples ht
  let times := options.unit.units first last
  let point (t : Instant) : Json := (options.bucket tally.index t).toJson
  have hpoints : (times.map (options.bucket tally.index)).map Bucket.toJson = times.map point :=
    List.map_map
  have hlength : times.length < UInt64.size := options.unit.length_units_lt first last
  refine ⟨times.map point, ?_, ?_, ?_, fun hfill => ?_, fun x hfill p hp => ?_⟩
  · exact congrArg some hpoints
  · have hbuckets : (times.map (options.bucket tally.index)).length = times.length :=
      List.length_map _
    rw [List.length_map, ← hbuckets]
    exact Report.bucketCount?_envelope (hbuckets.symm ▸ hlength)
  · rw [List.forall₂_map_left_iff, List.forall₂_map_right_iff, List.forall₂_same]
    exact fun t _ => hc.showsUnit hfinite t
  · have hmatched : (times.map point).countP (fun p => !p.isGap) =
        times.countP fun t => options.unit.ordinal t ∈ tally.index := by
      rw [List.countP_map]
      refine List.countP_congr fun t _ => ?_
      rw [decide_eq_true_iff, hc.mem_index_iff t]
      exact (hc.showsUnit hfinite t).not_isGap_iff hfill
    rw [hmatched]
    exact Report.matchedBuckets?_envelope (Nat.lt_of_le_of_lt List.countP_le_length hlength)
  · obtain ⟨t, -, rfl⟩ := List.mem_map.mp hp
    exact (hc.showsUnit hfinite t).isGap_eq_false hfill

/-- **Nulls in a chart are gaps and nothing else.** Let a report be made of rows, of known type or
of data, with whatever they have for values. Its chart has as many points as it says. A point has
the number of the first row in its unit, and is a gap only if there is none and no finite fill. So
without a fill the points that are no gaps are as many as the chart says were matched, and with a
finite fill there are no gaps. -/
theorem charts_tell_gaps (options : SeriesOptions) (now : Instant) (range : DateRange)
    (r : Report) :
    (∀ rows : List TypedRow, options.reportOfRows now rows range = .ok r →
      ∃ points, r.TellsGaps options (rows.map TypedRow.sample) points) ∧
    ∀ rows : List Json, options.reportOfData now rows range = .ok r →
      ∃ points, r.TellsGaps options
        (rows.map (Json.sample options.timestampField options.valueField)) points :=
  ⟨fun rows => exists_tellsGaps (TypedRow.exists_finite_of_mem_map_sample rows),
    fun rows => exists_tellsGaps (Json.exists_finite_of_mem_map_sample _ _ rows)⟩

/-- Three days around the beginning of 1970, without a fill. The values of the rows are not finite,
too large to be read or no numbers at all, and no row falls in the second day: that is the gap of
the charts, and the only one. -/
theorem charts_tell_gaps_around_1970 :
    let options : SeriesOptions := { (default : SeriesOptions) with fill? := none }
    let eve : Instant := ⟨-86400, 0, by decide, by decide, by decide⟩
    let epoch : Instant := ⟨0, 0, by decide, by decide, by decide⟩
    let next : Instant := ⟨86400, 0, by decide, by decide, by decide⟩
    let range : DateRange := ⟨some "1969-12-31", some "1970-01-02"⟩
    let rows : List TypedRow :=
      [⟨"1969-12-31 23:30:00", some .nan⟩, ⟨"yesterday", none⟩,
        ⟨"1970-01-02 01:00:00", some (.infinite true)⟩]
    let data : List Json :=
      [.object [("time_stamp", .string "1969-12-31 23:30:00"), ("count", .string "1e999")],
        .object [("time_stamp", .string "1970-01-02 01:00:00"), ("count", .array [.null])],
        .object [("time_stamp", .string "1970-01-02 02:00:00"), ("count", .string " nan ")]]
    let samples := data.map (Json.sample options.timestampField options.valueField)
    options.bounds epoch range = .ok (eve, next) ∧
      (∃ r points, options.reportOfRows epoch rows range = .ok r ∧
        r.TellsGaps options (rows.map TypedRow.sample) points ∧
        points.map Json.isGap = [false, true, false]) ∧
      ∃ r points, options.reportOfData epoch data range = .ok r ∧
        r.TellsGaps options samples points ∧ points.map Json.isGap = [false, true, false] := by
  intro options eve epoch next range rows data samples
  have hb : options.bounds epoch range = .ok (eve, next) := rfl
  obtain ⟨r, hr, hscan⟩ := exists_report_of_skip_eq_scan rfl hb (rows.map TypedRow.sample)
  obtain ⟨points, hpoints⟩ := (charts_tell_gaps options epoch range r).1 rows hr
  obtain ⟨r', hr', hscan'⟩ := exists_report_of_skip_eq_scan rfl hb samples
  obtain ⟨points', hpoints'⟩ := (charts_tell_gaps options epoch range r').2 data hr'
  refine ⟨hb, ⟨r, points, hr, hpoints, ?_⟩, r', points', hr', hpoints', ?_⟩
  · rw [hpoints.eq_map_toJson, hscan]
    decide +kernel
  · rw [hpoints'.eq_map_toJson, hscan']
    decide +kernel

end SeriesOptions

end ChartData
