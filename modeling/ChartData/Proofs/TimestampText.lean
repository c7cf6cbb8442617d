import ChartData.Proofs.BareDates
import ChartData.Series.Dense

/-!
# The texts of instants

An instant is written for the store by `Pattern.timestamp` and read by `readTimestamp`. As long as
the year has its four digits and nothing in front, the reader finds in the text what the calendar
and the clock gave: the date of the instant, the hour, the minute and the second that was shown.
What it makes of them is then a matter of whether a day has such a time
(`timestampOfChars_chars_timestamp`). It has, and the whole second of the instant is read back,
unless the instant is in a leap second. A day has no second 60, and after any other second the one
that is shown is the next (`Instant.texts_read_back`, `readTimestamp_format_of_isLeap`).

Any other year has a sign in front, and a sign is no digit: the text is refused at its date. The
reader takes years up to 262142, though, if they come without a sign. So there are instants that can
be read and whose own texts cannot: those after the year 9999 (`readTimestamp_format_of_eq_ok`).
-/

namespace ChartData

/-! ## Years -/

/-- **Whether a year is written with four digits** and nothing in front. -/
def IsFourDigitYear (year : Int) : Prop := 0 ≤ year ∧ year ≤ 9999

instance (year : Int) : Decidable (IsFourDigitYear year) :=
  inferInstanceAs (Decidable (0 ≤ year ∧ year ≤ 9999))

theorem yearChars_of_isFourDigitYear {year : Int} (h : IsFourDigitYear year) :
    yearChars year = zeroPadded 4 year.toNat := if_pos h

/-- **Any other year has a sign in front**, which is neither a digit nor a blank. -/
theorem exists_sign_of_not_isFourDigitYear {year : Int} (h : ¬IsFourDigitYear year) :
    ∃ sign, yearChars year = sign :: zeroPadded 4 year.natAbs ∧ sign.isDigit = false ∧
      isBlank sign = false := by
  unfold IsFourDigitYear at h
  unfold yearChars
  rw [if_neg h]
  split
  · exact ⟨'-', rfl, rfl, rfl⟩
  · exact ⟨'+', rfl, rfl, rfl⟩

/-- A numeral has no blank. -/
theorem isBlank_of_mem_numeral {field : List Char} (h : allDigits field = true) {c : Char}
    (hc : c ∈ field) : isBlank c = false :=
  isBlank_of_isDigit (List.all_eq_true.mp (Bool.and_eq_true_iff.mp h).2 c hc)

/-- A numeral has a digit. -/
theorem ne_nil_of_allDigits {field : List Char} (h : allDigits field = true) : field ≠ [] := by
  rintro rfl
  cases h

/-- A year has no blank. -/
theorem isBlank_of_mem_yearChars {year : Int} {c : Char} (h : c ∈ yearChars year) :
    isBlank c = false := by
  by_cases hyear : IsFourDigitYear year
  · rw [yearChars_of_isFourDigitYear hyear] at h
    exact isBlank_of_mem_numeral (allDigits_zeroPadded 4 _) h
  · obtain ⟨sign, heq, -, hsign⟩ := exists_sign_of_not_isFourDigitYear hyear
    rw [heq] at h
    rcases List.mem_cons.mp h with rfl | h
    · exact hsign
    · exact isBlank_of_mem_numeral (allDigits_zeroPadded 4 _) h

theorem yearChars_ne_nil (year : Int) : yearChars year ≠ [] := by
  unfold yearChars
  split
  · exact ne_nil_of_allDigits (allDigits_zeroPadded 4 _)
  · exact List.cons_ne_nil _ _

/-! ## The parts of a timestamp -/

namespace Pattern

/-- **A timestamp is a date and a clock** with a blank in between. -/
theorem chars_timestamp (t : Instant) :
    timestamp.chars t = isoDate.chars t ++ ' ' :: clock.chars t := List.flatMap_append

theorem chars_isoDate (t : Instant) :
    isoDate.chars t = yearChars t.date.year ++ '-' ::
      (zeroPadded 2 t.date.month ++ '-' :: zeroPadded 2 t.date.day) := by
  simp [chars, isoDate, Field.chars]

theorem chars_clock (t : Instant) :
    clock.chars t = zeroPadded 2 t.hour ++ ':' ::
      (zeroPadded 2 t.minute ++ ':' :: zeroPadded 2 t.shownSecond) := by
  simp [chars, clock, Field.chars]

/-- The date and the clock are told apart, whatever the year. -/
theorem splitDateTime_chars_timestamp (t : Instant) :
    splitDateTime (timestamp.chars t) = some (isoDate.chars t, clock.chars t) := by
  have hyear : ' ' ∉ yearChars t.date.year := fun h => nomatch isBlank_of_mem_yearChars h
  have hmonth := notMem_of_allDigits (c := ' ') rfl (allDigits_zeroPadded 2 t.date.month)
  have hday := notMem_of_allDigits (c := ' ') rfl (allDigits_zeroPadded 2 t.date.day)
  have hdate : ' ' ∉ isoDate.chars t := by
    rw [chars_isoDate]
    simp [hyear, hmonth, hday]
  unfold splitDateTime
  rw [chars_timestamp, cutAtFirst_append _ hdate]
  rfl

/-- Nothing is trimmed off a timestamp. -/
theorem trimmed_chars_timestamp (t : Instant) :
    trimmed (timestamp.chars t) = timestamp.chars t := by
  have hlast := allDigits_zeroPadded 2 t.shownSecond
  have hends := trimmed_append
    ('-' :: (zeroPadded 2 t.date.month ++ '-' :: (zeroPadded 2 t.date.day ++
      ' ' :: (zeroPadded 2 t.hour ++ ':' :: (zeroPadded 2 t.minute ++ [':'])))))
    (yearChars_ne_nil t.date.year) (ne_nil_of_allDigits hlast)
    (fun _ => isBlank_of_mem_yearChars) (fun _ => isBlank_of_mem_numeral hlast)
  rw [chars_timestamp, chars_isoDate, chars_clock]
  simpa using hends

/-- Nothing is trimmed off a date. -/
theorem trimmed_chars_isoDate (t : Instant) : trimmed (isoDate.chars t) = isoDate.chars t := by
  have hlast := allDigits_zeroPadded 2 t.date.day
  have hends := trimmed_append ('-' :: (zeroPadded 2 t.date.month ++ ['-']))
    (yearChars_ne_nil t.date.year) (ne_nil_of_allDigits hlast)
    (fun _ => isBlank_of_mem_yearChars) (fun _ => isBlank_of_mem_numeral hlast)
  rw [chars_isoDate]
  simpa using hends

end Pattern

/-! ## Reading the parts -/

/-- What starts with no digit is no three numerals. -/
theorem threeNumerals_eq_none {sep c : Char} (hsep : sep.isDigit = false)
    (hc : c.isDigit = false) (cs : List Char) : threeNumerals sep (c :: cs) = none := by
  cases h : threeNumerals sep (c :: cs) with
  | none => rfl
  | some fields =>
    obtain ⟨a, b, d, heq, hall, -⟩ := (threeNumerals_eq_some_iff hsep).mp h
    have ha := (hall a (by simp)).1
    obtain ⟨c', a', rfl⟩ := List.exists_cons_of_ne_nil (ne_nil_of_allDigits ha)
    cases heq
    exact absurd List.mem_cons_self (notMem_of_allDigits hc ha)

/-- **Three small numbers are read back.** -/
theorem threeNumerals_zeroPadded {sep : Char} (hsep : sep.isDigit = false) (width : Nat)
    {a b c : Nat} (ha : a < UInt32.size) (hb : b < UInt32.size) (hc : c < UInt32.size) :
    threeNumerals sep
        (zeroPadded width a ++ sep :: (zeroPadded 2 b ++ sep :: zeroPadded 2 c)) =
      some (a, b, c) := by
  refine (threeNumerals_eq_some_iff hsep).mpr ⟨_, _, _, rfl, fun field hf => ?_, ?_⟩
  · simp only [List.mem_cons, List.not_mem_nil, or_false] at hf
    rcases hf with rfl | rfl | rfl <;> rw [numeralValue_zeroPadded]
    · exact ⟨allDigits_zeroPadded width a, ha⟩
    · exact ⟨allDigits_zeroPadded 2 b, hb⟩
    · exact ⟨allDigits_zeroPadded 2 c, hc⟩
  · rw [numeralValue_zeroPadded, numeralValue_zeroPadded, numeralValue_zeroPadded]

section FourDigitYear

variable {t : Instant}

/-- **A date with a year of four digits is read back.** -/
theorem threeNumerals_chars_isoDate (h : IsFourDigitYear t.date.year) :
    threeNumerals '-' (Pattern.isoDate.chars t) =
      some (t.date.year.toNat, t.date.month, t.date.day) := by
  have hmonth : 1 ≤ t.date.month ∧ t.date.month - 1 < 12 := t.date.month_mem
  have hday := Nat.le_trans t.date.day_le (monthLength_le _ _)
  have hyear := h.2
  rw [Pattern.chars_isoDate, yearChars_of_isFourDigitYear h]
  refine threeNumerals_zeroPadded rfl 4 ?_ ?_ ?_ <;> unfold UInt32.size <;> omega

/-- A date with a year of four digits is representable. -/
theorem representableDate_date (h : IsFourDigitYear t.date.year) :
    representableDate (t.date.year.toNat, t.date.month, t.date.day) = some t.date := by
  have hyear := h.2
  exact representableDate_eq_some_iff.mpr
    ⟨⟨(Int.toNat_of_nonneg h.1).symm, rfl, rfl⟩, by omega⟩

/-- **A clock is read back**, with the second that was shown. -/
theorem threeNumerals_chars_clock (t : Instant) :
    threeNumerals ':' (Pattern.clock.chars t) = some (t.hour, t.minute, t.shownSecond) := by
  have hhour := t.hour_lt
  have hminute := t.minute_lt
  have hsecond := t.shownSecond_le
  rw [Pattern.chars_clock]
  refine threeNumerals_zeroPadded rfl 2 ?_ ?_ ?_ <;> unfold UInt32.size <;> omega

/-- A clock has no fraction. -/
theorem splitFraction_chars_clock (t : Instant) :
    splitFraction (Pattern.clock.chars t) = (Pattern.clock.chars t, none) := by
  have hclock : '.' ∉ Pattern.clock.chars t := by
    rw [Pattern.chars_clock]
    refine notMem_of_forall_allDigits rfl (by decide) fun field hf => ?_
    simp only [List.mem_cons, List.not_mem_nil, or_false] at hf
    rcases hf with rfl | rfl | rfl <;> exact allDigits_zeroPadded 2 _
  have hcut := splitFraction_append hclock none
  rwa [pointed, List.append_nil] at hcut

/-- **What a timestamp with a year of four digits is read as** is the time of its day that was
shown, if the day has that time. -/
theorem timestampOfChars_chars_timestamp (h : IsFourDigitYear t.date.year) :
    timestampOfChars (Pattern.timestamp.chars t) =
      orFault .noSuchTime (timeOfDay t.date (t.hour, t.minute, t.shownSecond)) := by
  refine timestampOfChars_of_parts (Pattern.splitDateTime_chars_timestamp t)
    (threeNumerals_chars_isoDate h) ?_ ?_ (representableDate_date h)
  · rw [splitFraction_chars_clock, threeNumerals_chars_clock]
  · rw [splitFraction_chars_clock]
    rfl

/-- The time that is shown in no leap second is that of the whole second. -/
theorem timeOfDay_of_not_isLeap (h : ¬t.IsLeap) :
    timeOfDay t.date (t.hour, t.minute, t.shownSecond) = some t.wholeSecond := by
  rw [Instant.shownSecond_of_not_isLeap h]
  exact timeOfDay_eq_some_iff.mpr ⟨⟨t.hour_lt, t.minute_lt, t.second_lt⟩, t.seconds_eq, rfl⟩

/-- The time that is shown in a leap second is not that of the whole second. -/
theorem timeOfDay_of_isLeap (h : t.IsLeap) :
    timeOfDay t.date (t.hour, t.minute, t.shownSecond) ≠ some t.wholeSecond := by
  intro htime
  have hseconds := (timeOfDay_eq_some_iff.mp htime).2.1
  rw [Instant.shownSecond_of_isLeap h] at hseconds
  have := t.seconds_eq
  change t.seconds = _ at hseconds
  omega

/-- No day has the time that is shown in a leap second at the end of a minute. -/
theorem timeOfDay_eq_none (h : t.IsLeap) (hsecond : t.second = 59) :
    timeOfDay t.date (t.hour, t.minute, t.shownSecond) = none := by
  rw [Instant.shownSecond_of_isLeap h, hsecond]
  exact if_neg fun hclock => Nat.lt_irrefl 60 hclock.2.2

/-- **The date of an instant, alone, is read** as the beginning of its day. -/
theorem midnightOfChars_chars_isoDate (h : IsFourDigitYear t.date.year) :
    midnightOfChars (Pattern.isoDate.chars t) = .ok (CalendarUnit.day.floor t) := by
  have hfloor : timeOfDay t.date (0, 0, 0) = some (CalendarUnit.day.floor t) := by
    refine timeOfDay_eq_some_iff.mpr ⟨by decide, ?_, rfl⟩
    have hday : t.date.dayNumber = t.seconds / 86400 := Date.dayNumber_ofDayNumber _
    show t.seconds - t.seconds % 86400 = _
    omega
  unfold midnightOfChars
  rw [threeNumerals_chars_isoDate h]
  show orFault .noSuchDate
    ((representableDate (t.date.year.toNat, t.date.month, t.date.day)).bind _) = _
  rw [representableDate_date h, Option.bind_some, hfloor]
  rfl

end FourDigitYear

/-- **A text with a year that has a sign is refused at its date.** -/
theorem timestampOfChars_of_not_isFourDigitYear {t : Instant} (h : ¬IsFourDigitYear t.date.year) :
    timestampOfChars (Pattern.timestamp.chars t) = .error .dateShape := by
  have hdate : threeNumerals '-' (Pattern.isoDate.chars t) = none := by
    obtain ⟨sign, heq, hsign, -⟩ := exists_sign_of_not_isFourDigitYear h
    rw [Pattern.chars_isoDate, heq]
    exact threeNumerals_eq_none rfl hsign _
  unfold timestampOfChars
  rw [Pattern.splitDateTime_chars_timestamp]
  show (orFault .dateShape (threeNumerals '-' (Pattern.isoDate.chars t)) >>= _) = _
  rw [hdate]
  rfl

/-! ## Reading the texts of an instant -/

/-- As a bound, the text of an instant is read as the timestamp it is. -/
theorem readBound_format (t : Instant) :
    readBound (Pattern.timestamp.format t) = readTimestamp (Pattern.timestamp.format t) := by
  have htrimmed : trimmed (Pattern.timestamp.format t).toList = Pattern.timestamp.chars t := by
    unfold Pattern.format
    rw [String.toList_ofList, Pattern.trimmed_chars_timestamp]
  rw [readBound_of_separator, htrimmed]
  · rfl
  · rw [htrimmed, Pattern.chars_timestamp]
    exact .inl (List.mem_append_right _ List.mem_cons_self)

/-- **The label of a day is read** as the beginning of the day. -/
theorem readBound_label_day {t : Instant} (h : IsFourDigitYear t.date.year) :
    readBound (CalendarUnit.day.label t) = .ok (CalendarUnit.day.floor t) := by
  have htrimmed : trimmed (CalendarUnit.day.label t).toList = Pattern.isoDate.chars t := by
    show trimmed (String.ofList (Pattern.isoDate.chars t)).toList = _
    rw [String.toList_ofList, Pattern.trimmed_chars_isoDate]
  have hdigits : ∀ field ∈ [yearChars t.date.year, zeroPadded 2 t.date.month,
      zeroPadded 2 t.date.day], allDigits field = true := by
    simp [yearChars_of_isFourDigitYear h, allDigits_zeroPadded]
  rw [readBound_of_no_separator, htrimmed]
  · exact refuse_eq_ok_iff.mpr (midnightOfChars_chars_isoDate h)
  · rw [htrimmed, Pattern.chars_isoDate]
    exact ⟨notMem_of_forall_allDigits rfl (by decide) hdigits,
      notMem_of_forall_allDigits rfl (by decide) hdigits⟩

/-- A timestamp is read by its characters. -/
theorem readTimestamp_format (t : Instant) :
    readTimestamp (Pattern.timestamp.format t) =
      refuse (Pattern.timestamp.format t) (timestampOfChars (Pattern.timestamp.chars t)) := by
  unfold readTimestamp Pattern.format
  rw [String.toList_ofList]

/-- **A timestamp with a year of four digits is read as the whole second of the instant**, unless
that is in a leap second. -/
theorem readTimestamp_format_eq_ok_iff {t : Instant} (h : IsFourDigitYear t.date.year) :
    readTimestamp (Pattern.timestamp.format t) = .ok t.wholeSecond ↔ ¬t.IsLeap := by
  rw [readTimestamp_format, refuse_eq_ok_iff, timestampOfChars_chars_timestamp h,
    orFault_eq_ok_iff]
  exact ⟨fun htime hleap => timeOfDay_of_isLeap hleap htime, timeOfDay_of_not_isLeap⟩

/-- **A leap second at the end of a minute is refused**, since no day has a second 60. -/
theorem readTimestamp_format_of_isLeap {t : Instant} (h : IsFourDigitYear t.date.year)
    (hleap : t.IsLeap) (hsecond : t.second = 59) :
    readTimestamp (Pattern.timestamp.format t) =
      .error (.unreadableTimestamp (Pattern.timestamp.format t) .noSuchTime) := by
  rw [readTimestamp_format, timestampOfChars_chars_timestamp h, timeOfDay_eq_none hleap hsecond]
  rfl

/-- A timestamp with any other year is refused. -/
theorem readTimestamp_format_of_not_isFourDigitYear {t : Instant}
    (h : ¬IsFourDigitYear t.date.year) :
    readTimestamp (Pattern.timestamp.format t) =
      .error (.unreadableTimestamp (Pattern.timestamp.format t) .dateShape) := by
  rw [readTimestamp_format, timestampOfChars_of_not_isFourDigitYear h]
  rfl

/-- **The texts of an instant are read back**, in the years that have four digits: the label of the
day as its beginning and, unless the instant is in a leap second, the timestamp as the whole second,
alone and as the bound of a range. In all other years the timestamp is refused at its date. -/
theorem Instant.texts_read_back (t : Instant) :
    (IsFourDigitYear t.date.year →
      (¬t.IsLeap → readTimestamp (Pattern.timestamp.format t) = .ok t.wholeSecond ∧
        readBound (Pattern.timestamp.format t) = .ok t.wholeSecond) ∧
          readBound (CalendarUnit.day.label t) = .ok (CalendarUnit.day.floor t)) ∧
    (¬IsFourDigitYear t.date.year →
      readTimestamp (Pattern.timestamp.format t) =
        .error (.unreadableTimestamp (Pattern.timestamp.format t) .dateShape)) := by
  refine ⟨fun h => ⟨fun hleap => ?_, readBound_label_day h⟩,
    readTimestamp_format_of_not_isFourDigitYear⟩
  have hread := (readTimestamp_format_eq_ok_iff h).mpr hleap
  exact ⟨hread, (readBound_format t).trans hread⟩

/-- The end of the leap day of the year 0, and the last second before that year. -/
theorem Instant.texts_read_back_around_year_0 :
    let leapDay : Instant := ⟨-62162035201, 999999999, by decide, by decide, by decide⟩
    let before : Instant := ⟨-62167219201, 0, by decide, by decide, by decide⟩
    IsFourDigitYear leapDay.date.year ∧ ¬leapDay.IsLeap ∧
      readTimestamp (Pattern.timestamp.format leapDay) = .ok leapDay.wholeSecond ∧
      readBound (CalendarUnit.day.label leapDay) = .ok (CalendarUnit.day.floor leapDay) ∧
      ¬IsFourDigitYear before.date.year ∧
      readTimestamp "-0001-12-31 23:59:59" =
        .error (.unreadableTimestamp "-0001-12-31 23:59:59" .dateShape) := by
  intro leapDay before
  have hyear : IsFourDigitYear leapDay.date.year := by decide +kernel
  have hleap : ¬leapDay.IsLeap := by decide
  have hbefore : ¬IsFourDigitYear before.date.year := by decide +kernel
  have htext : Pattern.timestamp.format before = "-0001-12-31 23:59:59" := by decide +kernel
  obtain ⟨hread, hlabel⟩ := leapDay.texts_read_back.1 hyear
  have hrefused := before.texts_read_back.2 hbefore
  rw [htext] at hrefused
  exact ⟨hyear, hleap, (hread hleap).1, hlabel, hbefore, hrefused⟩

/-! ## The texts of instants that were read -/

/-- **What is known of an instant that was read**: its year is the one written, and it has no part
of a second. -/
theorem exists_of_readTimestamp_eq_ok {s : String} {t : Instant} (h : readTimestamp s = .ok t) :
    (∃ w : WrittenTime, s.toList = w.chars ∧ w.IsProper ∧ t.date.year = numeralValue w.year) ∧
      t.wholeSecond = t := by
  obtain ⟨w, hs, hw, ht⟩ := timestampOfChars_eq_ok_iff.mp (refuse_eq_ok_iff.mp h)
  have hdate := (ht.fields_eq hw).1
  refine ⟨⟨w, hs, hw, ?_⟩, Instant.ext_iff.mpr ⟨rfl, ht.2.symm⟩⟩
  rw [hdate]
  rfl

/-- The bounds of a range are those of its texts. -/
theorem bounds_ofInstants (options : SeriesOptions) (now first last : Instant) :
    options.bounds now (.ofInstants (some first) (some last)) = (do
      let first ← readTimestamp (Pattern.timestamp.format first)
      let last ← readTimestamp (Pattern.timestamp.format last)
      return (first, last)) := by
  rw [← readBound_format, ← readBound_format]
  rfl

/-- **An instant that was read has a text that is read again as long as its year is at most 9999.**
The year is the one that was written. -/
theorem readTimestamp_format_of_eq_ok {s : String} {t : Instant} (h : readTimestamp s = .ok t) :
    (∃ w : WrittenTime, s.toList = w.chars ∧ w.IsProper ∧ t.date.year = numeralValue w.year) ∧
    (t.date.year ≤ 9999 →
      readTimestamp (Pattern.timestamp.format t) = .ok t ∧
        ∀ (options : SeriesOptions) (now : Instant),
          options.bounds now (.ofInstants (some t) (some t)) = .ok (t, t)) ∧
    (9999 < t.date.year →
      readTimestamp (Pattern.timestamp.format t) =
          .error (.unreadableTimestamp (Pattern.timestamp.format t) .dateShape) ∧
        ∀ (options : SeriesOptions) (now : Instant),
          options.bounds now (.ofInstants (some t) (some t)) =
            .error (.unreadableTimestamp (Pattern.timestamp.format t) .dateShape)) := by
  obtain ⟨hwritten, hwhole⟩ := exists_of_readTimestamp_eq_ok h
  refine ⟨hwritten, fun hyear => ?_, fun hyear => ?_⟩
  · have hnonneg : 0 ≤ t.date.year := by
      obtain ⟨w, -, -, heq⟩ := hwritten
      omega
    have hleap : ¬t.IsLeap := by
      rw [← hwhole]
      exact t.not_isLeap_wholeSecond
    have hread := (readTimestamp_format_eq_ok_iff ⟨hnonneg, hyear⟩).mpr hleap
    rw [hwhole] at hread
    refine ⟨hread, fun options now => ?_⟩
    rw [bounds_ofInstants, hread]
    rfl
  · have hread := readTimestamp_format_of_not_isFourDigitYear (t := t) fun h =>
      absurd h.2 (Int.not_le.mpr hyear)
    refine ⟨hread, fun options now => ?_⟩
    rw [bounds_ofInstants, hread]
    rfl

/-- The last second of the last year of four digits, written with a `T` and a fraction. -/
theorem readTimestamp_format_of_last_fourDigitYear :
    let t : Instant := ⟨253402300799, 0, by decide, by decide, by decide⟩
    readTimestamp "9999-12-31T23:59:59.5" = .ok t ∧ t.date.year ≤ 9999 ∧
      readTimestamp (Pattern.timestamp.format t) = .ok t := by
  intro t
  have hread : readTimestamp "9999-12-31T23:59:59.5" = .ok t := rfl
  have hyear : t.date.year ≤ 9999 := by decide +kernel
  exact ⟨hread, hyear, ((readTimestamp_format_of_eq_ok hread).2.1 hyear).1⟩

/-- **The first second of the year 10000 is read, and its own text is not.** -/
theorem year_10000_not_read_back :
    let t : Instant := ⟨253402300800, 0, by decide, by decide, by decide⟩
    readTimestamp "10000-01-01 00:00:00" = .ok t ∧
      Pattern.timestamp.format t = "+10000-01-01 00:00:00" ∧
        readTimestamp (Pattern.timestamp.format t) =
          .error (.unreadableTimestamp "+10000-01-01 00:00:00" .dateShape) :=
  ⟨rfl, by decide +kernel, rfl⟩

end ChartData
