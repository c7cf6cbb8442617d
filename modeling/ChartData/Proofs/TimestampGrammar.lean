import ChartData.Calendar.Timestamp

/-!
# The timestamps that are read

A timestamp is written with six numerals, of any width, between fixed signs: `WrittenTime` is such a
writing, taken apart. It is proper if its numerals are numerals and name a date and a time that
exist (`WrittenTime.IsProper`), and it denotes the instant that a calendar counts up to it, year by
year from the year 0, month by month and day by day (`WrittenTime.Denotes`).

Reading a text cuts it at the first blank or else the first `T`, at the first point, and at every
dash and colon. None of the cuts can be misled: numerals contain none of these signs, so where a
proper writing has its signs, there the text is cut, and a text that can be cut in this way is a
writing (`timestampOfChars_eq_ok_iff`). So `readTimestamp` reads exactly the texts of proper
writings and refuses all others (`readTimestamp_reads_proper`).
-/

namespace ChartData

/-! ## Written times -/

/-- The days of the years from 0 on that come before a year. -/
def daysBefore : Nat → Nat
  | 0 => 0
  | year + 1 => daysBefore year + yearLength year

/-- What stands behind a point, together with the point. -/
def pointed : Option (List Char) → List Char
  | some cs => '.' :: cs
  | none => []

/-- **A written time**: numerals, and signs between them. -/
structure WrittenTime where
  /-- The year. -/
  year : List Char
  /-- The month, counted from 1. -/
  month : List Char
  /-- The day of the month, counted from 1. -/
  day : List Char
  /-- What stands between the date and the time. -/
  separator : Char
  /-- The hour. -/
  hour : List Char
  /-- The minute. -/
  minute : List Char
  /-- The second. -/
  second : List Char
  /-- What stands behind a point, if there is one. -/
  fraction? : Option (List Char)

namespace WrittenTime

/-- The date as it is written. -/
def dateChars (w : WrittenTime) : List Char := w.year ++ '-' :: (w.month ++ '-' :: w.day)

/-- The time of the day as it is written, without a fraction. -/
def clockChars (w : WrittenTime) : List Char := w.hour ++ ':' :: (w.minute ++ ':' :: w.second)

/-- **The text of a written time.** -/
def chars (w : WrittenTime) : List Char :=
  w.dateChars ++ w.separator :: (w.clockChars ++ pointed w.fraction?)

/-- **A written time is proper** if it is written with numerals and names a date and a time of the
day that exist. -/
structure IsProper (w : WrittenTime) : Prop where
  /-- The fields of the date are numerals. -/
  date : ∀ field ∈ [w.year, w.month, w.day], allDigits field = true
  /-- The fields of the clock are numerals. -/
  clock : ∀ field ∈ [w.hour, w.minute, w.second], allDigits field = true
  /-- A fraction is a numeral, if there is one. -/
  fraction : ∀ digits ∈ w.fraction?, allDigits digits = true
  /-- A blank or a `T` separates the date and the time. -/
  separator : w.separator = ' ' ∨ w.separator = 'T'
  /-- The year is not beyond the last. -/
  year_le : numeralValue w.year ≤ 262142
  /-- The year has the month. -/
  month_bounds : 1 ≤ numeralValue w.month ∧ numeralValue w.month ≤ 12
  /-- The month has the day. -/
  day_bounds : 1 ≤ numeralValue w.day ∧
    numeralValue w.day ≤ monthLength (numeralValue w.year) (numeralValue w.month)
  /-- The day has the hour. -/
  hour_lt : numeralValue w.hour < 24
  /-- The hour has the minute. -/
  minute_lt : numeralValue w.minute < 60
  /-- The minute has the second. -/
  second_lt : numeralValue w.second < 60

/-- The days from the first of January of the year 0 to the date. -/
def days (w : WrittenTime) : Int :=
  daysBefore (numeralValue w.year) +
    daysIn ((monthLengths (numeralValue w.year)).take (numeralValue w.month - 1)) +
      numeralValue w.day - 1

/-- **A written time denotes an instant** if that is as many days after the beginning of 1970 as the
date is, as many hours, minutes and seconds as the clock says, and no part of a second. -/
def Denotes (w : WrittenTime) (t : Instant) : Prop :=
  t.seconds = (w.days - daysBefore 1970) * 86400 + numeralValue w.hour * 3600 +
    numeralValue w.minute * 60 + numeralValue w.second ∧ t.nanos = 0

end WrittenTime

/-! ## Days counted year by year -/

/-- A year begins where the days of the years before it are over. -/
theorem firstDayOfYear_natCast (year : Nat) :
    firstDayOfYear year = daysBefore year - daysBefore 1970 := by
  have hzero : ∀ year : Nat, firstDayOfYear year = firstDayOfYear 0 + daysBefore year := by
    intro year
    induction year with
    | zero => rfl
    | succ year ih =>
      rw [daysBefore, Int.natCast_succ, firstDayOfYear_succ, ih]
      push_cast
      omega
  -- The days before 1970 are not counted out: that year is known to begin with day 0.
  have hepoch := hzero 1970
  have hfirst : firstDayOfYear (1970 : Nat) = 0 := by decide
  rw [hzero]
  omega

/-! ## Dates and times of the day -/

/-- The lengths of months are at most 31. -/
theorem monthLength_le (year : Int) (month : Nat) : monthLength year month ≤ 31 := by
  unfold monthLength
  split
  · exact Nat.zero_le _
  · have hall : ∀ n ∈ monthLengths year, n ≤ 31 := by
      unfold monthLengths
      cases isLeapYear year <;> decide
    cases h : (monthLengths year)[month - 1]? with
    | none => exact Nat.zero_le _
    | some n => exact hall n (List.mem_of_getElem? h)

/-- **A date is found if it exists** and its year is not beyond the last. -/
theorem representableDate_eq_some_iff {y m d : Nat} {date : Date} :
    representableDate (y, m, d) = some date ↔
      (date.year = y ∧ date.month = m ∧ date.day = d) ∧ y ≤ 262142 := by
  obtain ⟨year, month, day, hone, hle⟩ := date
  unfold representableDate Date.ofFields?
  rw [Option.filter_eq_some_iff, decide_eq_true_eq]
  constructor
  · rintro ⟨hdate, hyear⟩
    split at hdate
    case isFalse => cases hdate
    case isTrue =>
      cases hdate
      exact ⟨⟨rfl, rfl, rfl⟩, Int.ofNat_le.mp hyear⟩
  · rintro ⟨⟨rfl, rfl, rfl⟩, hyear⟩
    exact ⟨dif_pos ⟨hone, hle⟩, Int.ofNat_le.mpr hyear⟩

/-- **A time of a day is found if the day has it.** -/
theorem timeOfDay_eq_some_iff {d : Date} {h m s : Nat} {t : Instant} :
    timeOfDay d (h, m, s) = some t ↔
      (h < 24 ∧ m < 60 ∧ s < 60) ∧
        t.seconds = d.dayNumber * 86400 + h * 3600 + m * 60 + s ∧ t.nanos = 0 := by
  unfold timeOfDay
  split
  case isFalse hclock => simp [hclock]
  case isTrue hclock =>
    rw [and_iff_right hclock]
    exact Instant.ofDateTime?_eq_some_iff

/-- **Every time of a day is representable** if the year of the day is. -/
theorem exists_timeOfDay {d : Date} {h m s : Nat} (hfirst : 0 ≤ d.year) (hlast : d.year ≤ 262142)
    (hclock : h < 24 ∧ m < 60 ∧ s < 60) : ∃ t, timeOfDay d (h, m, s) = some t := by
  -- The first day of the year 0 and the day after the last of the year 262142.
  have hnumber : -719528 ≤ d.dayNumber ∧ d.dayNumber < 95026237 := by
    have hyear := firstDayOfYear_mono hfirst
    have hnext := firstDayOfYear_mono (Int.add_le_add_right hlast 1)
    rw [firstDayOfYear_succ, show firstDayOfYear (262142 + 1) = 95026237 by decide] at hnext
    rw [show firstDayOfYear 0 = -719528 by decide] at hyear
    have hday := d.daysIn_take_add_lt
    have hone := d.one_le_day
    unfold Date.dayNumber
    omega
  unfold timeOfDay Instant.ofDateTime? Instant.ofUnix?
  dsimp only
  rw [if_pos hclock, dif_pos]
  · exact ⟨_, rfl⟩
  · unfold firstSecond lastSecond secondsPerDay
    omega

/-! ## Numerals between separators -/

/-- A numeral contains nothing but digits. -/
theorem notMem_of_allDigits {c : Char} (hc : c.isDigit = false) {field : List Char}
    (h : allDigits field = true) : c ∉ field := by
  intro hmem
  unfold allDigits at h
  rw [Bool.and_eq_true] at h
  rw [List.all_eq_true.mp h.2 c hmem] at hc
  cases hc

/-- Numerals with a separator between them contain nothing but digits and the separator. -/
theorem notMem_of_forall_allDigits {c sep : Char} (hc : c.isDigit = false) (hne : c ≠ sep)
    {x y z : List Char} (h : ∀ field ∈ [x, y, z], allDigits field = true) :
    c ∉ x ++ sep :: (y ++ sep :: z) := by
  have hx := notMem_of_allDigits hc (h x (by simp))
  have hy := notMem_of_allDigits hc (h y (by simp))
  have hz := notMem_of_allDigits hc (h z (by simp))
  simp [hx, hy, hz, hne]

/-- **Three numerals with a separator between them** are told apart. -/
theorem threeNumerals_eq_some_iff {sep : Char} (hsep : sep.isDigit = false) {cs : List Char}
    {fields : Nat × Nat × Nat} :
    threeNumerals sep cs = some fields ↔
      ∃ a b c, cs = a ++ sep :: (b ++ sep :: c) ∧
        (∀ field ∈ [a, b, c], allDigits field = true ∧ numeralValue field < UInt32.size) ∧
        fields = (numeralValue a, numeralValue b, numeralValue c) := by
  unfold threeNumerals
  constructor
  · intro h
    split at h
    case h_2 => cases h
    case h_1 a b c hfields =>
      split at h
      case isFalse => cases h
      case isTrue hall =>
        cases h
        have hcs := intercalate_fieldsAt sep cs
        rw [hfields] at hcs
        refine ⟨a, b, c, ?_, by simpa using hall, rfl⟩
        rw [← hcs]
        simp
  · rintro ⟨a, b, c, rfl, hall, rfl⟩
    have hfield : ∀ field ∈ [a, b, c], ∀ d ∈ field, (d == sep) = false := by
      intro field hf d hd
      exact beq_false_of_ne fun h => notMem_of_allDigits hsep (hall field hf).1 (h ▸ hd)
    have hfields : fieldsAt (· == sep) (a ++ sep :: (b ++ sep :: c)) = [a, b, c] := by
      rw [fieldsAt_append _ (hfield a (by simp)), fieldsAt_append _ (hfield b (by simp)),
        fieldsAt_of_forall (hfield c (by simp))] <;> exact beq_self_eq_true sep
    rw [hfields]
    refine if_pos ?_
    simpa using hall

/-! ## Where a text is cut -/

/-- A date and a time are what stands on either side of a separator. -/
theorem exists_of_splitDateTime {cs date time : List Char}
    (h : splitDateTime cs = some (date, time)) :
    ∃ sep, (sep = ' ' ∨ sep = 'T') ∧ cs = date ++ sep :: time := by
  rcases Option.or_eq_some_iff.mp h with hblank | ⟨-, hT⟩
  · exact ⟨' ', .inl rfl, (append_of_cutAtFirst hblank).1⟩
  · exact ⟨'T', .inr rfl, (append_of_cutAtFirst hT).1⟩

/-- **A text is cut at its separator** if there is none in what stands before it, and no blank in
what stands behind. -/
theorem splitDateTime_append {sep : Char} (hsep : sep = ' ' ∨ sep = 'T') {date time : List Char}
    (hdate : ' ' ∉ date ∧ 'T' ∉ date) (htime : ' ' ∉ time) :
    splitDateTime (date ++ sep :: time) = some (date, time) := by
  unfold splitDateTime
  rcases hsep with rfl | rfl
  · rw [cutAtFirst_append time hdate.1]
    rfl
  · -- A blank would be cut at first wherever it stands, also behind the `T`.
    have hblank : ' ' ∉ date ++ 'T' :: time := by simp [hdate.1, htime]
    rw [cutAtFirst_eq_none_iff.mpr hblank, cutAtFirst_append time hdate.2]
    rfl

/-- A clock and a fraction are what stands on either side of a point. -/
theorem append_pointed_of_splitFraction (cs : List Char) :
    (splitFraction cs).1 ++ pointed (splitFraction cs).2 = cs := by
  unfold splitFraction
  split
  · next h => exact (append_of_cutAtFirst h).1.symm
  · exact List.append_nil cs

/-- **A time is cut at its point** if there is none in the clock. -/
theorem splitFraction_append {clock : List Char} (h : '.' ∉ clock)
    (fraction? : Option (List Char)) :
    splitFraction (clock ++ pointed fraction?) = (clock, fraction?) := by
  unfold splitFraction
  cases fraction? with
  | none =>
    have hnone := cutAtFirst_eq_none_iff.mpr h
    rw [← List.append_nil clock] at hnone
    rw [pointed, hnone, List.append_nil]
  | some digits => rw [pointed, cutAtFirst_append digits h]

/-! ## What is read -/

/-- A step that may fail is followed by the next one if it does not. -/
theorem orFault_bind_eq_ok_iff {α β : Type} {fault : TimestampFault} {a? : Option α}
    {f : α → Except TimestampFault β} {b : β} :
    orFault fault a? >>= f = .ok b ↔ ∃ a, a? = some a ∧ f a = .ok b := by
  cases a? with
  | none => exact ⟨nofun, nofun⟩
  | some a =>
    show f a = .ok b ↔ _
    simp

theorem orFault_eq_ok_iff {α : Type} {fault : TimestampFault} {a? : Option α} {a : α} :
    orFault fault a? = .ok a ↔ a? = some a := by
  cases a? <;> simp [orFault]

/-- **The last step is the time of the day**, where all others succeed. -/
theorem timestampOfChars_of_parts {cs date time : List Char}
    {dateFields clockFields : Nat × Nat × Nat} {d : Date}
    (hsplit : splitDateTime cs = some (date, time))
    (hdate : threeNumerals '-' date = some dateFields)
    (hclock : threeNumerals ':' (splitFraction time).1 = some clockFields)
    (hfraction : (splitFraction time).2.all allDigits = true)
    (hd : representableDate dateFields = some d) :
    timestampOfChars cs = orFault .noSuchTime (timeOfDay d clockFields) := by
  unfold timestampOfChars
  rw [hsplit]
  show (orFault .dateShape (threeNumerals '-' date) >>= _) = _
  rw [hdate]
  show (orFault .timeShape (threeNumerals ':' (splitFraction time).1) >>= _) = _
  rw [hclock]
  change (if (splitFraction time).2.all allDigits = true then _ else _) = _
  rw [if_pos hfraction]
  show (orFault .noSuchDate (representableDate dateFields) >>= _) = _
  rw [hd]
  rfl

/-- **A text is read if every step succeeds.** -/
theorem timestampOfChars_eq_ok_iff_steps {cs : List Char} {t : Instant} :
    timestampOfChars cs = .ok t ↔
      ∃ date time dateFields clockFields d,
        splitDateTime cs = some (date, time) ∧
        threeNumerals '-' date = some dateFields ∧
        threeNumerals ':' (splitFraction time).1 = some clockFields ∧
        (splitFraction time).2.all allDigits = true ∧
        representableDate dateFields = some d ∧ timeOfDay d clockFields = some t := by
  constructor
  · intro h
    unfold timestampOfChars at h
    obtain ⟨⟨date, time⟩, hsplit, h⟩ := orFault_bind_eq_ok_iff.mp h
    obtain ⟨dateFields, hdateFields, h⟩ := orFault_bind_eq_ok_iff.mp h
    obtain ⟨clockFields, hclockFields, h⟩ := orFault_bind_eq_ok_iff.mp h
    change (if (splitFraction time).2.all allDigits = true then _ else _) = _ at h
    split at h
    case isFalse => cases h
    case isTrue hfraction =>
      obtain ⟨d, hd, h⟩ := orFault_bind_eq_ok_iff.mp h
      exact ⟨date, time, dateFields, clockFields, d, hsplit, hdateFields, hclockFields, hfraction,
        hd, orFault_eq_ok_iff.mp h⟩
  · rintro ⟨date, time, dateFields, clockFields, d, hsplit, hdateFields, hclockFields, hfraction,
      hd, ht⟩
    have hlast := timestampOfChars_of_parts hsplit hdateFields hclockFields hfraction hd
    exact hlast.trans (orFault_eq_ok_iff.mpr ht)

namespace WrittenTime

variable {w : WrittenTime}

/-- The date of a written time is as many days after the beginning of 1970. -/
theorem dayNumber_eq {d : Date} (hyear : d.year = numeralValue w.year)
    (hmonth : d.month = numeralValue w.month) (hday : d.day = numeralValue w.day) :
    d.dayNumber = w.days - daysBefore 1970 := by
  unfold Date.dayNumber days
  rw [hyear, hmonth, hday, firstDayOfYear_natCast]
  omega

namespace IsProper

/-- The date of a proper written time. -/
def toDate (h : w.IsProper) : Date :=
  ⟨numeralValue w.year, numeralValue w.month, numeralValue w.day, h.day_bounds.1, h.day_bounds.2⟩

/-- The numerals of the date are small. -/
theorem date_small (h : w.IsProper) : ∀ field ∈ [w.year, w.month, w.day],
    allDigits field = true ∧ numeralValue field < UInt32.size := by
  intro field hf
  refine ⟨h.date field hf, ?_⟩
  have hyear := h.year_le
  have hmonth := h.month_bounds.2
  have hday := Nat.le_trans h.day_bounds.2 (monthLength_le _ _)
  show _ < 4294967296
  simp only [List.mem_cons, List.not_mem_nil, or_false] at hf
  rcases hf with rfl | rfl | rfl <;> omega

/-- The numerals of the clock are small. -/
theorem clock_small (h : w.IsProper) : ∀ field ∈ [w.hour, w.minute, w.second],
    allDigits field = true ∧ numeralValue field < UInt32.size := by
  intro field hf
  refine ⟨h.clock field hf, ?_⟩
  have hhour := h.hour_lt
  have hminute := h.minute_lt
  have hsecond := h.second_lt
  show _ < 4294967296
  simp only [List.mem_cons, List.not_mem_nil, or_false] at hf
  rcases hf with rfl | rfl | rfl <;> omega

/-- Neither separator is in a date. -/
theorem notMem_dateChars (h : w.IsProper) : ' ' ∉ w.dateChars ∧ 'T' ∉ w.dateChars :=
  ⟨notMem_of_forall_allDigits rfl (by decide) h.date,
    notMem_of_forall_allDigits rfl (by decide) h.date⟩

/-- A blank is not in a time. -/
theorem notMem_time (h : w.IsProper) : ' ' ∉ w.clockChars ++ pointed w.fraction? := by
  have hclock : ' ' ∉ w.clockChars := notMem_of_forall_allDigits rfl (by decide) h.clock
  have hfraction : ' ' ∉ pointed w.fraction? := by
    cases hf : w.fraction? with
    | none => exact List.not_mem_nil
    | some digits =>
      have hdigits := notMem_of_allDigits (c := ' ') rfl (h.fraction digits hf)
      simp [pointed, hdigits]
  exact fun hmem => (List.mem_append.mp hmem).elim hclock hfraction

/-- A point is not in a clock. -/
theorem notMem_clockChars (h : w.IsProper) : '.' ∉ w.clockChars :=
  notMem_of_forall_allDigits rfl (by decide) h.clock

end IsProper

end WrittenTime

/-- **The text of a proper written time is read** as the instant that it denotes: it is cut where it
was put together. -/
theorem WrittenTime.timestampOfChars_chars {w : WrittenTime} {t : Instant} (hw : w.IsProper)
    (ht : w.Denotes t) : timestampOfChars w.chars = .ok t := by
  obtain ⟨hseconds, hnanos⟩ := ht
  have hcut := splitFraction_append hw.notMem_clockChars w.fraction?
  refine timestampOfChars_eq_ok_iff_steps.mpr ⟨w.dateChars, w.clockChars ++ pointed w.fraction?,
    _, _, hw.toDate, splitDateTime_append hw.separator hw.notMem_dateChars hw.notMem_time,
    (threeNumerals_eq_some_iff rfl).mpr ⟨_, _, _, rfl, hw.date_small, rfl⟩, ?_, ?_,
    representableDate_eq_some_iff.mpr ⟨⟨rfl, rfl, rfl⟩, hw.year_le⟩,
    timeOfDay_eq_some_iff.mpr ⟨⟨hw.hour_lt, hw.minute_lt, hw.second_lt⟩, ?_, hnanos⟩⟩
  · rw [hcut]
    exact (threeNumerals_eq_some_iff rfl).mpr ⟨_, _, _, rfl, hw.clock_small, rfl⟩
  · rw [hcut]
    exact (Option.all_eq_true _ _).mpr hw.fraction
  · rw [hseconds, dayNumber_eq (d := hw.toDate) rfl rfl rfl]

/-- **Only texts of proper written times are read.** The pieces that a text is cut into are those of
a written time, and every step that succeeds says of some of them that they are proper. -/
theorem exists_of_timestampOfChars_eq_ok {cs : List Char} {t : Instant}
    (h : timestampOfChars cs = .ok t) :
    ∃ w : WrittenTime, cs = w.chars ∧ w.IsProper ∧ w.Denotes t := by
  obtain ⟨date, time, dateFields, clockFields, d, hsplit, hdate, hclock, hfraction, hd, ht⟩ :=
    timestampOfChars_eq_ok_iff_steps.mp h
  obtain ⟨separator, hseparator, rfl⟩ := exists_of_splitDateTime hsplit
  obtain ⟨year, month, day, rfl, hdateDigits, rfl⟩ := (threeNumerals_eq_some_iff rfl).mp hdate
  obtain ⟨hour, minute, second, hclockChars, hclockDigits, rfl⟩ :=
    (threeNumerals_eq_some_iff rfl).mp hclock
  obtain ⟨⟨hyear, hmonth, hday⟩, hlast⟩ := representableDate_eq_some_iff.mp hd
  obtain ⟨⟨hhour, hminute, hsecond⟩, hseconds, hnanos⟩ := timeOfDay_eq_some_iff.mp ht
  have htime := append_pointed_of_splitFraction time
  rw [hclockChars] at htime
  have hmonths : 1 ≤ numeralValue month ∧ numeralValue month ≤ 12 := by
    have hmem : 1 ≤ d.month ∧ d.month - 1 < 12 := d.month_mem
    omega
  have hdays := And.intro d.one_le_day d.day_le
  rw [hyear, hmonth, hday] at hdays
  let w : WrittenTime :=
    ⟨year, month, day, separator, hour, minute, second, (splitFraction time).2⟩
  have hproper : w.IsProper :=
    { date := fun field hf => (hdateDigits field hf).1
      clock := fun field hf => (hclockDigits field hf).1
      fraction := (Option.all_eq_true _ _).mp hfraction
      separator := hseparator
      year_le := hlast
      month_bounds := hmonths
      day_bounds := hdays
      hour_lt := hhour
      minute_lt := hminute
      second_lt := hsecond }
  refine ⟨w, congrArg (w.dateChars ++ separator :: ·) htime.symm, hproper, ?_, hnanos⟩
  rw [hseconds, WrittenTime.dayNumber_eq (w := w) hyear hmonth hday]

/-- **A text is read as an instant if it is the text of a proper written time that denotes the
instant.** -/
theorem timestampOfChars_eq_ok_iff {cs : List Char} {t : Instant} :
    timestampOfChars cs = .ok t ↔
      ∃ w : WrittenTime, cs = w.chars ∧ w.IsProper ∧ w.Denotes t := by
  refine ⟨exists_of_timestampOfChars_eq_ok, ?_⟩
  rintro ⟨w, rfl, hw, ht⟩
  exact w.timestampOfChars_chars hw ht

/-- **Every proper written time denotes an instant.** -/
theorem WrittenTime.IsProper.exists_denotes {w : WrittenTime} (h : w.IsProper) :
    ∃ t, w.Denotes t := by
  obtain ⟨t, ht⟩ := exists_timeOfDay (d := h.toDate) (Int.natCast_nonneg _)
    (Int.ofNat_le.mpr h.year_le) ⟨h.hour_lt, h.minute_lt, h.second_lt⟩
  obtain ⟨-, hseconds, hnanos⟩ := timeOfDay_eq_some_iff.mp ht
  refine ⟨t, ?_, hnanos⟩
  rw [hseconds, dayNumber_eq (d := h.toDate) rfl rfl rfl]

/-- **The calendar says of the instant what is written**: the same date, hour, minute and second. -/
theorem WrittenTime.Denotes.fields_eq {w : WrittenTime} {t : Instant} (ht : w.Denotes t)
    (h : w.IsProper) :
    t.date = h.toDate ∧ t.hour = numeralValue w.hour ∧ t.minute = numeralValue w.minute ∧
      t.second = numeralValue w.second := by
  obtain ⟨hseconds, -⟩ := ht
  rw [← dayNumber_eq (d := h.toDate) rfl rfl rfl] at hseconds
  have hhour := h.hour_lt
  have hminute := h.minute_lt
  have hsecond := h.second_lt
  have hday : t.seconds / 86400 = h.toDate.dayNumber := by omega
  have hclock : t.secondOfDay = numeralValue w.hour * 3600 + numeralValue w.minute * 60 +
      numeralValue w.second := by
    unfold Instant.secondOfDay secondsPerDay
    omega
  refine ⟨?_, ?_, ?_, ?_⟩
  · unfold Instant.date secondsPerDay
    rw [hday, Date.ofDayNumber_dayNumber]
  · unfold Instant.hour
    omega
  · unfold Instant.minute
    omega
  · unfold Instant.second
    omega

/-- **The timestamps that are read** are the texts of proper written times, each read as the instant
that it denotes, and every other text is refused, with the text itself in the refusal. -/
theorem readTimestamp_reads_proper (s : String) :
    (∀ t, readTimestamp s = .ok t ↔
      ∃ w : WrittenTime, s.toList = w.chars ∧ w.IsProper ∧ w.Denotes t) ∧
    ((∃ fault, readTimestamp s = .error (.unreadableTimestamp s fault)) ↔
      ¬∃ w : WrittenTime, s.toList = w.chars ∧ w.IsProper) := by
  unfold readTimestamp refuse
  cases hr : timestampOfChars s.toList with
  | ok t =>
    obtain ⟨w, hs, hw, ht⟩ := timestampOfChars_eq_ok_iff.mp hr
    refine ⟨fun u => ?_, ⟨nofun, fun h => absurd ⟨w, hs, hw⟩ h⟩⟩
    rw [← timestampOfChars_eq_ok_iff, hr]
    show Except.ok t = .ok u ↔ _
    rw [Except.ok.injEq, Except.ok.injEq]
  | error fault =>
    refine ⟨fun u => ?_, ⟨fun _ => ?_, fun _ => ⟨fault, rfl⟩⟩⟩
    · rw [← timestampOfChars_eq_ok_iff, hr]
      exact ⟨nofun, nofun⟩
    · rintro ⟨w, hs, hw⟩
      obtain ⟨t, ht⟩ := hw.exists_denotes
      have hread := timestampOfChars_eq_ok_iff.mpr ⟨w, hs, hw, ht⟩
      rw [hr] at hread
      cases hread

example : (readTimestamp "002024-2-29T0:0:07.25").toOption.map (·.seconds) = some 1709164807 := by
  decide +kernel

example : (readTimestamp "2023-02-29 00:00:07").toOption = none := by decide +kernel

end ChartData
