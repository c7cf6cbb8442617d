import ChartData.Json.Basic
import ChartData.Series.CalendarUnit

/-!
# Reports of a series

A dense series is a list of buckets, one for each unit, and a report is such a series together with
what became of the rows: how many units found a row, how many rows had no time that can be read, and
how many came too late because an earlier row had taken their unit. A report has two forms as data,
the plain one (`Report.toJson`) and the one that charts are drawn from (`Report.envelope`).
-/

namespace ChartData

/-- **One unit of a dense series.** -/
structure Bucket where
  /-- The beginning of the unit. -/
  time : Instant
  /-- The value; none is a gap. -/
  value? : Option Binary64
deriving DecidableEq

/-- A bucket as a data value. A value that is not finite has no form in data and is a gap. -/
def Bucket.toJson (b : Bucket) : Json :=
  .object [("time", .string (Pattern.utc.format b.time)),
    ("value", (b.value?.map Json.ofBinary64).getD .null)]

/-- **A dense series and what became of the rows.** -/
structure Report where
  /-- The series, one bucket for each unit, in the order of time. -/
  buckets : List Bucket
  /-- The unit. -/
  unit : CalendarUnit
  /-- The number of buckets with the value of a row. -/
  matched : Nat
  /-- The number of rows without a time that can be read. -/
  skipped : Nat
  /-- The number of rows whose unit an earlier row had taken. -/
  duplicates : Nat
deriving DecidableEq

namespace Report

/-- The entries that say what became of the rows. -/
def accounting (r : Report) : List (String × Json) :=
  [("granularity", .string r.unit.name), ("matched_buckets", .ofNat r.matched),
    ("skipped_rows", .ofNat r.skipped), ("duplicate_rows", .ofNat r.duplicates)]

/-- **A report as a data value.** -/
def toJson (r : Report) : Json :=
  .object (("buckets", .array (r.buckets.map Bucket.toJson)) :: r.accounting)

/-- **A report as the data of a chart.** -/
def envelope (r : Report) : Json :=
  .object [("points", .array (r.buckets.map Bucket.toJson)),
    ("bucket_count", .ofNat r.buckets.length), ("_meta", .object r.accounting)]

end Report

end ChartData
