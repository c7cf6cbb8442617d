import ChartData.Json.Decode
import ChartData.Text.Blank

/-!
# Rows and samples

A series is made of rows, and rows come in two forms: with a time and a value of known type
(`TypedRow`), or as data in which the time and the value stand under names that the settings give.
Either way a row is read as a **sample**: the text of a time, or none, and a value. A series can be
made of samples with any values, but what these two forms of rows come to is always a finite number.
What is no number counts as zero – with two exceptions made for data: a string that spells a number
counts as it, since large integers arrive in quotes, and truth counts as one.
-/

namespace ChartData

/-- **What a series takes from a row.** -/
structure Sample where
  /-- The text of the time, if there is one. -/
  timestamp? : Option String
  /-- The value. -/
  value : Binary64
deriving DecidableEq

/-- A number where it is finite, and otherwise zero. -/
def finiteOrZero (x : Binary64) : Finite64 := x.finite?.getD .zero

/-- **A row of known type.** -/
structure TypedRow where
  /-- The text of the time. -/
  timestamp : String
  /-- The value, if there is one. -/
  value? : Option Binary64
deriving DecidableEq

namespace TypedRow

/-- What a series takes from the row. -/
def sample (r : TypedRow) : Sample :=
  ⟨some r.timestamp, .finite ((r.value?.map finiteOrZero).getD .zero)⟩

/-- A row as a data value; an absent value is written as null. -/
def toJson (r : TypedRow) : Json :=
  .object [("timestamp", .string r.timestamp),
    ("value", (r.value?.map Json.ofBinary64).getD .null)]

/-- A row out of a data value. -/
def decode : Decoder TypedRow := fun levels j => do
  let f ← Decode.fields ["timestamp", "value"] levels j
  let timestamp ← f.required "timestamp" Decode.string
  let value? ← f.optional "value" Decode.real
  return ⟨timestamp, value?⟩

end TypedRow

namespace Json

/-- **The number that a data value counts as.** -/
def coerced : Json → Finite64
  | number n => finiteOrZero n.toBinary64
  | string s => ((Binary64.ofChars? (trimmed s.toList)).map finiteOrZero).getD .zero
  | bool true => .one
  | _ => .zero

/-- **What a series takes from a row of data**, given the names of the time and the value. -/
def sample (timestampField valueField : String) (row : Json) : Sample :=
  ⟨(row.entry? timestampField).bind string?,
    .finite (((row.entry? valueField).map coerced).getD .zero)⟩

end Json

end ChartData
