import Std.Data.HashMap
import ChartData.Calendar.Timestamp
import ChartData.Series.DateRange
import ChartData.Series.Report
import ChartData.Series.Sample
import ChartData.Settings.Basic

/-!
# Dense series

Rows cover some units of a range and others not. A dense series of them has one bucket for each unit
from the first bound through the last, with the value of the first row that falls in the unit, and
with the fill where no row does (`SeriesOptions.report`).

The rows are gone through once and indexed by the ordinal of their unit (`Tally`); a row whose unit
is taken is counted and dropped. Then the units of the range are gone through and looked up. So the
work is proportional to the rows and the units, and rows outside the range cost nothing but their
place in the index.

An absent last bound is now, an absent first bound is now less the look back. Rows are not looked at
before the range is known.
-/

namespace ChartData

/-- **How a series is to be made.** -/
structure SeriesOptions where
  /-- The unit. -/
  unit : CalendarUnit
  /-- The value of a unit without rows; none leaves a gap. -/
  fill? : Option Binary64
  /-- How many nanoseconds to look back where a range has no beginning. -/
  lookback : Int
  /-- What to do with a row whose time cannot be read. -/
  onMalformed : MalformedRows
  /-- The name under which a row of data keeps its time. -/
  timestampField : String
  /-- The name under which a row of data keeps its value. -/
  valueField : String
deriving DecidableEq

/-- The options that settings amount to. -/
def SeriesOptions.ofSettings (s : SeriesSettings) : SeriesOptions where
  unit := s.unit
  fill? := s.fill?
  lookback := s.lookbackDays.toNat * secondsPerDay * 1000000000
  onMalformed := s.onMalformed
  timestampField := s.timestampField
  valueField := s.valueField

instance : Inhabited SeriesOptions := ⟨.ofSettings default⟩

/-- The instant of a sample, or why it has none. -/
def Sample.instant (s : Sample) : Except Error Instant :=
  match s.timestamp? with
  | some text => readTimestamp text
  | none => .error (.unreadableTimestamp "" .missing)

/-- **What has been gathered from the rows so far.** -/
structure Tally where
  /-- The value of each unit that a row has taken, under the ordinal of the unit. -/
  index : Std.HashMap Int Binary64
  /-- The number of rows without a time that can be read. -/
  skipped : Nat
  /-- The number of rows whose unit an earlier row had taken. -/
  duplicates : Nat

namespace Tally

/-- Nothing gathered yet. -/
def empty : Tally := ⟨∅, 0, 0⟩

/-- A value for a unit: taken if the unit is free, and otherwise counted. -/
def place (t : Tally) (ordinal : Int) (value : Binary64) : Tally :=
  if ordinal ∈ t.index then { t with duplicates := t.duplicates + 1 }
  else { t with index := t.index.insert ordinal value }

/-- **One more row.** -/
def add (options : SeriesOptions) (t : Tally) (s : Sample) : Except Error Tally :=
  match s.instant, options.onMalformed with
  | .ok time, _ => .ok (t.place (options.unit.ordinal time) s.value)
  | .error _, .skip => .ok { t with skipped := t.skipped + 1 }
  | .error cause, .abort => .error cause

/-- **All rows.** -/
def ofSamples (options : SeriesOptions) (samples : List Sample) : Except Error Tally :=
  samples.foldlM (add options) empty

end Tally

namespace SeriesOptions

/-- **The instants that a range stands for**, given what time it is. -/
def bounds (options : SeriesOptions) (now : Instant) (range : DateRange) :
    Except Error (Instant × Instant) := do
  let first ←
    match range.first? with
    | some text => readBound text
    | none =>
      match now.later? (-options.lookback) with
      | some t => pure t
      | none => throw (.lookbackTooFar (options.lookback.tdiv 1000000000))
  let last ←
    match range.last? with
    | some text => readBound text
    | none => pure now
  return (first, last)

/-- The bucket of a unit, given the index of the rows. -/
def bucket (options : SeriesOptions) (index : Std.HashMap Int Binary64) (time : Instant) : Bucket :=
  ⟨time, (index[options.unit.ordinal time]?).or options.fill?⟩

/-- **The dense series of samples over a range.** -/
def report (options : SeriesOptions) (now : Instant) (samples : List Sample) (range : DateRange) :
    Except Error Report := do
  let (first, last) ← options.bounds now range
  let tally ← Tally.ofSamples options samples
  let times := options.unit.units first last
  return {
    buckets := times.map (options.bucket tally.index)
    unit := options.unit
    matched := times.countP fun time => options.unit.ordinal time ∈ tally.index
    skipped := tally.skipped
    duplicates := tally.duplicates }

/-- **The dense series of rows of known type.** -/
def reportOfRows (options : SeriesOptions) (now : Instant) (rows : List TypedRow)
    (range : DateRange) : Except Error Report :=
  options.report now (rows.map TypedRow.sample) range

/-- **The dense series of rows of data.** -/
def reportOfData (options : SeriesOptions) (now : Instant) (rows : List Json) (range : DateRange) :
    Except Error Report :=
  options.report now
    (rows.map (Json.sample options.timestampField options.valueField)) range

end SeriesOptions

end ChartData
