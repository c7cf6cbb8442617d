import ChartData.Query.Table
import ChartData.Series.CalendarUnit

/-!
# Settings

What is taken for granted when a request leaves it open: for queries the table, the limit and the
greatest limit, for series the unit, how far back to look, where a row keeps its time and its value,
and what to show for a unit without rows.

`Settings.fault?` says what is wrong with settings that cannot be meant. The faults are looked for
in a fixed order and the first one found is the one reported.
-/

namespace ChartData

/-- **What to do with a row whose time cannot be read.** -/
inductive MalformedRows where
  /-- Pass over the row. -/
  | skip
  /-- Give up the whole series. -/
  | abort
deriving DecidableEq, Repr

namespace MalformedRows

/-- Rows are passed over unless told otherwise. -/
instance : Inhabited MalformedRows := ⟨skip⟩

/-- The name of a policy. -/
def name : MalformedRows → String
  | skip => "skip"
  | abort => "abort"

/-- The policy with a name. -/
def ofName? (name : String) : Option MalformedRows := [skip, abort].find? (·.name == name)

/-- A name names the policy it is the name of. -/
@[simp] theorem ofName?_name (p : MalformedRows) : ofName? p.name = some p := by
  cases p <;> rfl

end MalformedRows

/-- **Settings for queries.** -/
structure QuerySettings where
  /-- The table a new query reads from. -/
  defaultTable : Table
  /-- The limit of a query that sets none; without it there is no limit. -/
  defaultLimit? : Option UInt64
  /-- The greatest limit a query may set. -/
  maxLimit : UInt64
deriving DecidableEq

/-- The settings for queries when nothing is set. -/
instance : Inhabited QuerySettings := ⟨⟨default, some 20, 10000⟩⟩

/-- Sameness of settings for queries, tables by name. -/
def QuerySettings.equal (a b : QuerySettings) : Bool :=
  a.defaultTable.equal b.defaultTable && a.defaultLimit? == b.defaultLimit? &&
    a.maxLimit == b.maxLimit

/-- **Settings for series.** -/
structure SeriesSettings where
  /-- The unit of a series. -/
  unit : CalendarUnit
  /-- How many days to look back where a range has no beginning. -/
  lookbackDays : UInt32
  /-- The name under which a row keeps its time. -/
  timestampField : String
  /-- The name under which a row keeps its value. -/
  valueField : String
  /-- The value of a unit without rows. -/
  fill : Binary64
  /-- Whether a unit without rows has no value instead. -/
  fillWithNull : Bool
  /-- What to do with a row whose time cannot be read. -/
  onMalformed : MalformedRows
deriving DecidableEq

namespace SeriesSettings

/-- The settings for series when nothing is set. -/
instance : Inhabited SeriesSettings :=
  ⟨⟨default, 7, "time_stamp", "count", .finite .zero, false, default⟩⟩

/-- The value of a unit without rows, if it has one. -/
def fill? (s : SeriesSettings) : Option Binary64 := if s.fillWithNull then none else some s.fill

/-- Sameness of settings for series, the fill by value. -/
def equal (a b : SeriesSettings) : Bool :=
  a.unit == b.unit && a.lookbackDays == b.lookbackDays &&
    a.timestampField == b.timestampField && a.valueField == b.valueField &&
    a.fill.equal b.fill && a.fillWithNull == b.fillWithNull && a.onMalformed == b.onMalformed

end SeriesSettings

/-- **All settings.** -/
structure Settings where
  /-- Settings for queries. -/
  query : QuerySettings
  /-- Settings for series. -/
  series : SeriesSettings
deriving DecidableEq

/-- What is wrong with settings. -/
inductive SettingsFault where
  /-- No limit would be allowed at all. -/
  | maxLimitZero
  /-- The default limit is not one that a query could set. -/
  | defaultLimitOutOfRange (limit max : UInt64)
  /-- A row would keep its time or its value under no name. -/
  | emptyFieldName
  /-- The look back is longer than ten years. -/
  | lookbackTooLong (days : UInt32)
  /-- The fill is no number that can be shown. -/
  | fillNotFinite
deriving DecidableEq, Repr

/-- The greatest number of days to look back: ten years. -/
def longestLookback : UInt32 := 3660

/-- A fault of settings in words. -/
def SettingsFault.message : SettingsFault → String
  | maxLimitZero => "Validation error: query.max_limit must be at least 1"
  | defaultLimitOutOfRange limit max =>
    "Validation error: query.default_limit " ++ limit.toNat.repr ++ " is outside 1..=" ++
      max.toNat.repr
  | emptyFieldName => "Validation error: series field names cannot be empty"
  | lookbackTooLong days =>
    "Validation error: series.lookback_days " ++ days.toNat.repr ++ " exceeds " ++
      longestLookback.toNat.repr
  | fillNotFinite => "Validation error: series.fill must be a finite number"

namespace Settings

instance : Inhabited Settings := ⟨⟨default, default⟩⟩

/-- Sameness of settings. -/
def equal (a b : Settings) : Bool := a.query.equal b.query && a.series.equal b.series

/-- Whether a limit is one that a query may set. -/
def isAllowedLimit (max limit : UInt64) : Bool := limit != 0 && limit ≤ max

/-- The default limit, if it is not one that a query may set. -/
def badDefaultLimit? (q : QuerySettings) : Option UInt64 :=
  q.defaultLimit?.filter fun limit => !isAllowedLimit q.maxLimit limit

/-- **The first fault of settings**, if they have one. -/
def fault? (s : Settings) : Option SettingsFault :=
  if s.query.maxLimit = 0 then some .maxLimitZero
  else
    match badDefaultLimit? s.query with
    | some limit => some (.defaultLimitOutOfRange limit s.query.maxLimit)
    | none =>
      if s.series.timestampField = "" ∨ s.series.valueField = "" then some .emptyFieldName
      else if longestLookback < s.series.lookbackDays then
        some (.lookbackTooLong s.series.lookbackDays)
      else if !s.series.fill.isFinite then some .fillNotFinite
      else none

/-- **Settings have no fault** if each of the places to look for one is in order. -/
theorem fault?_eq_none_iff {s : Settings} : s.fault? = none ↔
    s.query.maxLimit ≠ 0 ∧ badDefaultLimit? s.query = none ∧
      ¬(s.series.timestampField = "" ∨ s.series.valueField = "") ∧
      ¬longestLookback < s.series.lookbackDays ∧ s.series.fill.isFinite = true := by
  unfold fault?
  split
  · next hzero => exact ⟨nofun, fun h => absurd hzero h.1⟩
  · next hzero =>
    cases badDefaultLimit? s.query with
    | some limit => exact ⟨nofun, nofun⟩
    | none =>
      dsimp only
      split
      · next hnames => exact ⟨nofun, fun h => absurd hnames h.2.2.1⟩
      · next hnames =>
        split
        · next hlookback => exact ⟨nofun, fun h => absurd hlookback h.2.2.2.1⟩
        · next hlookback =>
          split
          · next hfill =>
            refine ⟨nofun, fun h => ?_⟩
            rw [h.2.2.2.2] at hfill
            cases hfill
          · next hfill =>
            exact ⟨fun _ => ⟨hzero, rfl, hnames, hlookback, by simpa using hfill⟩, fun _ => rfl⟩

end Settings

end ChartData
