import ChartData.Calendar.Pattern
import ChartData.Error
import ChartData.Text.Blank
import ChartData.Text.Fields

/-!
# Timestamps

The store writes times as `2024-01-31 23:59:59`, without a zone; they are UTC. `readTimestamp` reads
them, with a `T` in place of the blank, fields of any width, and a fraction of a second, which is
checked and dropped. `readBound` reads a bound of a date range, which may also be a date alone – its
midnight – and may have blanks around it.

A text can be wrong in several ways at once. The faults of the form are found first, from left to
right, then a date that does not exist, then a time that does not.
-/

namespace ChartData

/-- **Three numerals** between separators, each small enough for 32 bits. -/
def threeNumerals (sep : Char) (cs : List Char) : Option (Nat × Nat × Nat) :=
  match fieldsAt (· == sep) cs with
  | [a, b, c] =>
    if [a, b, c].all (fun field => allDigits field && numeralValue field < UInt32.size) then
      some (numeralValue a, numeralValue b, numeralValue c)
    else none
  | _ => none

/-- The date with the given fields, if it exists and its instants are representable. -/
def representableDate (fields : Nat × Nat × Nat) : Option Date :=
  (Date.ofFields? fields.1 fields.2.1 fields.2.2).filter (·.year ≤ 262142)

/-- The instant of a time of a day, if the day has that time. -/
def timeOfDay (d : Date) (fields : Nat × Nat × Nat) : Option Instant :=
  if fields.1 < 24 ∧ fields.2.1 < 60 ∧ fields.2.2 < 60 then
    Instant.ofDateTime? d fields.1 fields.2.1 fields.2.2
  else none

/-- The date and the time of a timestamp: before and after the first blank, or where there is none,
the first `T`. -/
def splitDateTime (cs : List Char) : Option (List Char × List Char) :=
  (cutAtFirst ' ' cs).or (cutAtFirst 'T' cs)

/-- The clock and the fraction of a time. -/
def splitFraction (cs : List Char) : List Char × Option (List Char) :=
  match cutAtFirst '.' cs with
  | some (clock, fraction) => (clock, some fraction)
  | none => (cs, none)

/-- The value, or a fault where there is none. -/
def orFault {α : Type} (fault : TimestampFault) : Option α → Except TimestampFault α
  | some a => .ok a
  | none => .error fault

/-- **The instant of a timestamp**, or what is wrong with it. -/
def timestampOfChars (cs : List Char) : Except TimestampFault Instant := do
  let (date, time) ← orFault .noSeparator (splitDateTime cs)
  let dateFields ← orFault .dateShape (threeNumerals '-' date)
  let (clock, fraction) := splitFraction time
  let clockFields ← orFault .timeShape (threeNumerals ':' clock)
  unless fraction.all allDigits do
    throw .fractionShape
  let date ← orFault .noSuchDate (representableDate dateFields)
  orFault .noSuchTime (timeOfDay date clockFields)

/-- The midnight of a date, or what is wrong with it. -/
def midnightOfChars (cs : List Char) : Except TimestampFault Instant := do
  let dateFields ← orFault .dateShape (threeNumerals '-' cs)
  orFault .noSuchDate ((representableDate dateFields).bind (timeOfDay · (0, 0, 0)))

/-- A fault of a text as a refusal that names the text. -/
def refuse {α : Type} (input : String) (r : Except TimestampFault α) : Except Error α :=
  r.mapError (.unreadableTimestamp input ·)

/-- What is refused has a fault, and the refusal names the text. -/
theorem refuse_eq_error_iff {α : Type} {input : String} {r : Except TimestampFault α} {e : Error} :
    refuse input r = .error e ↔
      ∃ fault, r = .error fault ∧ e = .unreadableTimestamp input fault := by
  cases r with
  | ok a => exact ⟨nofun, fun ⟨_, h, _⟩ => nomatch h⟩
  | error fault =>
    constructor
    · intro h
      exact ⟨fault, rfl, (Except.error.inj h).symm⟩
    · rintro ⟨_, ⟨⟩, rfl⟩
      rfl

/-- Nothing else is refused. -/
theorem refuse_eq_ok_iff {α : Type} {input : String} {r : Except TimestampFault α} {a : α} :
    refuse input r = .ok a ↔ r = .ok a := by
  cases r with
  | ok b =>
    show Except.ok b = .ok a ↔ _
    rw [Except.ok.injEq, Except.ok.injEq]
  | error fault => exact ⟨nofun, nofun⟩

/-- **Reading a timestamp.** -/
def readTimestamp (text : String) : Except Error Instant :=
  refuse text (timestampOfChars text.toList)

/-- **Reading a bound of a range**: a timestamp or a date alone, blanks around it set aside. A
date that is refused is named as it was given, a timestamp without the blanks. -/
def readBound (text : String) : Except Error Instant :=
  let cs := trimmed text.toList
  if cs.any fun c => c == ' ' || c == 'T' then
    refuse (String.ofList cs) (timestampOfChars cs)
  else refuse text (midnightOfChars cs)

end ChartData
