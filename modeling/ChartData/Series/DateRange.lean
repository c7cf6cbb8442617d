import ChartData.Calendar.Timestamp
import ChartData.Json.Decode

/-!
# Date ranges

A request says which stretch of time it wants by two bounds, both of them texts and either of them
optional. The bounds are inclusive. What an absent bound means is not said here: the series that is
asked for knows how far to look back.
-/

namespace ChartData

/-- **A range of time as requested.** -/
structure DateRange where
  /-- The first instant. -/
  first? : Option String
  /-- The last instant. -/
  last? : Option String
deriving DecidableEq

namespace DateRange

instance : Inhabited DateRange := ⟨⟨none, none⟩⟩

/-- **The range between two instants**, written as the store writes them. -/
def ofInstants (first? last? : Option Instant) : DateRange :=
  ⟨first?.map Pattern.timestamp.format, last?.map Pattern.timestamp.format⟩

/-- Whether neither bound is given. -/
def isUnbounded (r : DateRange) : Bool := r.first?.isNone && r.last?.isNone

/-- A range as a data value, absent bounds left out. -/
def toJson (r : DateRange) : Json :=
  .object (Json.entryOf? "gte" (r.first?.map .string) ++ Json.entryOf? "lte" (r.last?.map .string))

/-- A range out of a data value. -/
def decode : Decoder DateRange := fun levels j => do
  let f ← Decode.fields ["gte", "lte"] levels j
  let first? ← f.optional "gte" Decode.string
  let last? ← f.optional "lte" Decode.string
  return ⟨first?, last?⟩

end DateRange

end ChartData
