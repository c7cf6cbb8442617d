/-!
# What can go wrong

The causes for which the library refuses to build, check or run something, and the one place where
each cause is put into words. A cause carries what its message names and nothing else, so two
refusals are the same exactly when they say the same of the same text.
-/

namespace ChartData

/-- How the conditions of a group are combined. -/
inductive Quantifier where
  /-- All of them have to hold. -/
  | all
  /-- One of them has to hold. -/
  | any
deriving DecidableEq, Repr

/-- The connective that joins the conditions of a group. -/
def Quantifier.connective : Quantifier → String
  | all => "and"
  | any => "or"

/-- The two counts that a query may carry. -/
inductive CountField where
  /-- The greatest number of rows. -/
  | limit
  /-- The number of rows passed over. -/
  | offset
deriving DecidableEq, Repr

/-- The name of a count. -/
def CountField.name : CountField → String
  | limit => "limit"
  | offset => "offset"

/-- What is wrong with a text that should be a timestamp. -/
inductive TimestampFault where
  /-- No blank and no `T` between a date and a time. -/
  | noSeparator
  /-- The date is not three numerals between hyphens. -/
  | dateShape
  /-- The time is not three numerals between colons. -/
  | timeShape
  /-- Something other than digits follows the point of the seconds. -/
  | fractionShape
  /-- The calendar has no such date. -/
  | noSuchDate
  /-- The day has no such time. -/
  | noSuchTime
  /-- A row has no timestamp at all. -/
  | missing
deriving DecidableEq, Repr

/-- A fault of a timestamp in words. -/
def TimestampFault.reason : TimestampFault → String
  | noSeparator => "missing date/time separator"
  | dateShape => "date is not Y-M-D"
  | timeShape => "time is not H:M:S"
  | fractionShape => "fractional seconds are not digits"
  | noSuchDate => "calendar date does not exist"
  | noSuchTime => "time of day does not exist"
  | missing => "row has no timestamp"

/-- What is wrong with a text that should be a harmless piece of a statement. -/
inductive FragmentFault where
  /-- Nothing but blanks. -/
  | blank
  /-- A sequence that ends a statement or hides part of it. -/
  | sequence (denied : String)
  /-- A word that changes data or tables, in small letters. -/
  | keyword (denied : String)
deriving DecidableEq, Repr

/-- A fault of a fragment in words. -/
def FragmentFault.reason : FragmentFault → String
  | blank => "fragment is empty"
  | sequence denied => "contains `" ++ denied ++ "`"
  | keyword denied => "contains keyword `" ++ denied ++ "`"

/-- **The causes of refusal.** -/
inductive Error where
  /-- A column is to count distinct values but is not aggregated. -/
  | distinctWithoutAggregation (column : String)
  /-- A group was to be made of no conditions. -/
  | emptyGroup (quantifier : Quantifier)
  /-- A count is negative. -/
  | negativeCount (field : CountField) (value : Int)
  /-- A text is no timestamp. -/
  | unreadableTimestamp (input : String) (fault : TimestampFault)
  /-- A condition carries both kinds of group. -/
  | mixedGroups (column : String)
  /-- A name is outside the alphabet of names. -/
  | improperName (name : String)
  /-- A piece of a statement is empty or contains what it must not. -/
  | improperFragment (fragment : String) (fault : FragmentFault)
  /-- Looking back from now leaves the representable times. -/
  | lookbackTooFar (seconds : Int)
  /-- A limit is zero or beyond the greatest one. -/
  | limitOutsideBounds (value max : UInt64)
deriving DecidableEq, Repr

/-- **A cause in words.** -/
def Error.message : Error → String
  | distinctWithoutAggregation column =>
    "invalid column spec for `" ++ column ++ "`: distinct requires an aggregation"
  | emptyGroup quantifier => quantifier.connective ++ " requires at least one condition"
  | negativeCount field value => field.name ++ " must be non-negative, got " ++ value.repr
  | unreadableTimestamp input fault =>
    "malformed timestamp `" ++ input ++ "`: " ++ fault.reason
  | mixedGroups column => "filter on `" ++ column ++ "` mixes and_filter with or_filter"
  | improperName name => "invalid identifier `" ++ name ++ "`"
  | improperFragment fragment fault =>
    "invalid expression `" ++ fragment ++ "`: " ++ fault.reason
  | lookbackTooFar seconds =>
    "lookback of " ++ seconds.repr ++ "s reaches outside the supported time range"
  | limitOutsideBounds value max =>
    "limit " ++ value.toNat.repr ++ " is outside 1..=" ++ max.toNat.repr

end ChartData
