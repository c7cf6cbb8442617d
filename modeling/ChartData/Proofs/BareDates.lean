import ChartData.Proofs.TimestampGrammar

/-!
# Dates alone

The bound of a range may be a timestamp, and it may be a date alone. The two are read along
different ways: a date alone never comes near the cuts of a timestamp or the time of the day. They
meet all the same. A date alone is read as the timestamp that has it, a blank and `00:00:00`, down
to what is wrong with it (`midnightOfChars_eq_timestampOfChars`): the blank is found where it was
put, and midnight is a time that every representable day has.

So a bound is the text of a proper written time, or the date of one, and nothing else
(`readBound_reads_dates`). Blanks around it make no difference, except that a refusal of a date
alone names the text with its blanks. Hence readings are compared up to the text that a refusal
names (`SameReading`).
-/

namespace ChartData

/-! ## Midnight -/

namespace WrittenTime

variable {w : WrittenTime}

/-- **The beginning of the day** of a written time. -/
def atMidnight (w : WrittenTime) : WrittenTime :=
  { w with separator := ' ', hour := ['0', '0'], minute := ['0', '0'], second := ['0', '0'],
           fraction? := none }

/-- What is written of it is the date, a blank and `00:00:00`. -/
theorem chars_atMidnight (w : WrittenTime) :
    w.atMidnight.chars = w.dateChars ++ " 00:00:00".toList := rfl

theorem IsProper.atMidnight (h : w.IsProper) : w.atMidnight.IsProper where
  date := h.date
  clock := show ∀ field ∈ List.replicate 3 ['0', '0'], allDigits field = true by decide
  fraction := nofun
  separator := .inl rfl
  year_le := h.year_le
  month_bounds := h.month_bounds
  day_bounds := h.day_bounds
  hour_lt := show numeralValue ['0', '0'] < 24 by decide
  minute_lt := show numeralValue ['0', '0'] < 60 by decide
  second_lt := show numeralValue ['0', '0'] < 60 by decide

end WrittenTime

/-! ## The two ways of reading -/

/-- What stands before midnight is what was put there. -/
theorem splitDateTime_midnight {cs : List Char} (h : ' ' ∉ cs ∧ 'T' ∉ cs) :
    splitDateTime (cs ++ " 00:00:00".toList) = some (cs, "00:00:00".toList) :=
  splitDateTime_append (.inl rfl) h (by decide)

/-- **A date alone is read as its midnight**: as the timestamp with `00:00:00` behind it, and with
the same fault if it is refused. -/
theorem midnightOfChars_eq_timestampOfChars {cs : List Char} (h : ' ' ∉ cs ∧ 'T' ∉ cs) :
    midnightOfChars cs = timestampOfChars (cs ++ " 00:00:00".toList) := by
  have hclock : threeNumerals ':' (splitFraction "00:00:00".toList).1 = some (0, 0, 0) := by decide
  unfold midnightOfChars timestampOfChars
  rw [splitDateTime_midnight h]
  show _ = orFault .dateShape (threeNumerals '-' cs) >>= fun fields =>
    orFault .timeShape (threeNumerals ':' (splitFraction "00:00:00".toList).1) >>= _
  rw [hclock]
  cases threeNumerals '-' cs with
  | none => rfl
  | some fields =>
    show orFault .noSuchDate ((representableDate fields).bind (timeOfDay · (0, 0, 0))) =
      orFault .noSuchDate (representableDate fields) >>= fun d =>
        orFault .noSuchTime (timeOfDay d (0, 0, 0))
    cases hdate : representableDate fields with
    | none => rfl
    | some d =>
      -- Every representable day has a midnight, so the last step does not fail.
      obtain ⟨⟨hyear, -, -⟩, hlast⟩ := representableDate_eq_some_iff.mp hdate
      obtain ⟨t, ht⟩ := exists_timeOfDay (d := d) (h := 0) (m := 0) (s := 0)
        (hyear ▸ Int.natCast_nonneg _) (hyear ▸ Int.ofNat_le.mpr hlast) (by decide)
      show orFault .noSuchDate (timeOfDay d (0, 0, 0)) = orFault .noSuchTime (timeOfDay d (0, 0, 0))
      rw [ht]
      rfl

/-- **The dates that are read** are those of proper written times. -/
theorem midnightOfChars_eq_ok_iff {cs : List Char} (h : ' ' ∉ cs ∧ 'T' ∉ cs) {t : Instant} :
    midnightOfChars cs = .ok t ↔
      ∃ w : WrittenTime, w.IsProper ∧ cs = w.dateChars ∧ w.atMidnight.Denotes t := by
  rw [midnightOfChars_eq_timestampOfChars h]
  constructor
  · intro hread
    obtain ⟨w, hcs, hw, -⟩ := timestampOfChars_eq_ok_iff.mp hread
    -- A text is cut in one way only, so the date of the written time is what the text began with.
    have hcut := splitDateTime_midnight h
    have hcut' : splitDateTime w.chars = some (w.dateChars, w.clockChars ++ pointed w.fraction?) :=
      splitDateTime_append hw.separator hw.notMem_dateChars hw.notMem_time
    rw [hcs, hcut'] at hcut
    obtain rfl : w.dateChars = cs := congrArg Prod.fst (Option.some.inj hcut)
    obtain ⟨u, hu⟩ := hw.atMidnight.exists_denotes
    rw [← w.chars_atMidnight, WrittenTime.timestampOfChars_chars hw.atMidnight hu] at hread
    cases hread
    exact ⟨w, hw, rfl, hu⟩
  · rintro ⟨w, hw, rfl, ht⟩
    rw [← w.chars_atMidnight]
    exact WrittenTime.timestampOfChars_chars hw.atMidnight ht

/-! ## Bounds -/

theorem any_isSeparator_iff {cs : List Char} :
    (cs.any fun c => c == ' ' || c == 'T') = true ↔ ' ' ∈ cs ∨ 'T' ∈ cs := by
  simp only [List.any_eq_true, Bool.or_eq_true, beq_iff_eq]
  constructor
  · rintro ⟨c, hc, rfl | rfl⟩
    · exact .inl hc
    · exact .inr hc
  · rintro (hc | hc)
    · exact ⟨' ', hc, .inl rfl⟩
    · exact ⟨'T', hc, .inr rfl⟩

/-- **A bound with a blank or a `T` inside** is read as a timestamp. -/
theorem readBound_of_separator {s : String}
    (h : ' ' ∈ trimmed s.toList ∨ 'T' ∈ trimmed s.toList) :
    readBound s = readTimestamp (String.ofList (trimmed s.toList)) := by
  unfold readBound readTimestamp
  dsimp only
  rw [if_pos (any_isSeparator_iff.mpr h), String.toList_ofList]

/-- **A bound without a blank or a `T` inside** is read as a date alone. -/
theorem readBound_of_no_separator {s : String}
    (h : ' ' ∉ trimmed s.toList ∧ 'T' ∉ trimmed s.toList) :
    readBound s = refuse s (midnightOfChars (trimmed s.toList)) := by
  unfold readBound
  dsimp only
  rw [if_neg fun hany => (any_isSeparator_iff.mp hany).elim h.1 h.2]

/-- **The same reading**: the same instant, or a refusal for the same reason, whatever text it
names. -/
inductive SameReading : Except Error Instant → Except Error Instant → Prop where
  | read (t : Instant) : SameReading (.ok t) (.ok t)
  | refused (text text' : String) (fault : TimestampFault) :
    SameReading (.error (.unreadableTimestamp text fault))
      (.error (.unreadableTimestamp text' fault))

theorem sameReading_refuse (text text' : String) (r : Except TimestampFault Instant) :
    SameReading (refuse text r) (refuse text' r) := by
  cases r with
  | ok t => exact .read t
  | error fault => exact .refused text text' fault

/-- Texts that are the same when trimmed have the same reading. -/
theorem sameReading_of_trimmed_eq {text text' : String}
    (h : trimmed text.toList = trimmed text'.toList) :
    SameReading (readBound text) (readBound text') := by
  unfold readBound
  rw [h]
  dsimp only
  split <;> exact sameReading_refuse ..

/-- The text of a written time has its separator. -/
theorem WrittenTime.IsProper.separator_mem {w : WrittenTime} (h : w.IsProper) :
    ' ' ∈ w.chars ∨ 'T' ∈ w.chars := by
  have hmem : w.separator ∈ w.chars := List.mem_append_right _ List.mem_cons_self
  rcases h.separator with heq | heq <;> rw [heq] at hmem
  · exact .inl hmem
  · exact .inr hmem

/-- **The bounds that are read** are the texts of proper written times and their dates. -/
theorem readBound_eq_ok_iff {s : String} {t : Instant} :
    readBound s = .ok t ↔
      (∃ w : WrittenTime, w.IsProper ∧ trimmed s.toList = w.chars ∧ w.Denotes t) ∨
        ∃ w : WrittenTime, w.IsProper ∧ trimmed s.toList = w.dateChars ∧
          w.atMidnight.Denotes t := by
  by_cases h : ' ' ∈ trimmed s.toList ∨ 'T' ∈ trimmed s.toList
  · have hnoDate : ¬∃ w : WrittenTime, w.IsProper ∧ trimmed s.toList = w.dateChars ∧
        w.atMidnight.Denotes t := by
      rintro ⟨w, hw, heq, -⟩
      rw [heq] at h
      exact h.elim hw.notMem_dateChars.1 hw.notMem_dateChars.2
    rw [readBound_of_separator h, or_iff_left hnoDate]
    unfold readTimestamp
    rw [refuse_eq_ok_iff, timestampOfChars_eq_ok_iff, String.toList_ofList]
    exact exists_congr fun w => and_left_comm
  · have hnoTime : ¬∃ w : WrittenTime, w.IsProper ∧ trimmed s.toList = w.chars ∧ w.Denotes t := by
      rintro ⟨w, hw, heq, -⟩
      exact h (heq ▸ hw.separator_mem)
    rw [not_or] at h
    rw [readBound_of_no_separator h, or_iff_right hnoTime, refuse_eq_ok_iff,
      midnightOfChars_eq_ok_iff h]

/-- **Bounds are read as timestamps are.** With a blank or a `T` inside, a bound is read as the
timestamp that is left of it without the blanks around it. Any other bound is read as the timestamp
that has `00:00:00` behind it. So blanks around a bound make no difference, and what is read is the
text of a proper written time or the date of one, read as its midnight. -/
theorem readBound_reads_dates (s : String) :
    (' ' ∈ trimmed s.toList ∨ 'T' ∈ trimmed s.toList →
      readBound s = readTimestamp (String.ofList (trimmed s.toList))) ∧
    (' ' ∉ trimmed s.toList ∧ 'T' ∉ trimmed s.toList →
      SameReading (readBound s)
        (readTimestamp (String.ofList (trimmed s.toList) ++ " 00:00:00"))) ∧
    (∀ before after : String, (∀ c ∈ before.toList, isBlank c = true) →
      (∀ c ∈ after.toList, isBlank c = true) →
        SameReading (readBound (before ++ s ++ after)) (readBound s)) ∧
    ∀ t, readBound s = .ok t ↔
      (∃ w : WrittenTime, w.IsProper ∧ trimmed s.toList = w.chars ∧ w.Denotes t) ∨
        ∃ w : WrittenTime, w.IsProper ∧ trimmed s.toList = w.dateChars ∧
          w.atMidnight.Denotes t := by
  refine ⟨readBound_of_separator, fun h => ?_, fun before after hbefore hafter => ?_,
    fun t => readBound_eq_ok_iff⟩
  · unfold readTimestamp
    rw [readBound_of_no_separator h, midnightOfChars_eq_timestampOfChars h, String.toList_append,
      @String.toList_ofList (trimmed s.toList)]
    exact sameReading_refuse ..
  · refine sameReading_of_trimmed_eq ?_
    rw [String.toList_append, String.toList_append]
    exact trimmed_surrounded hbefore hafter s.toList

/-- A leap day, alone, with blanks around it, and with a `T` behind it. -/
theorem readBound_of_leap_day :
    SameReading (readBound "2024-02-29") (readTimestamp "2024-02-29 00:00:00") ∧
      SameReading (readBound ("\t" ++ "2024-02-29" ++ "\u3000")) (readBound "2024-02-29") ∧
      readBound " 2024-02-29T12:00:00 " = readTimestamp "2024-02-29T12:00:00" := by
  have hday : String.ofList (trimmed "2024-02-29".toList) = "2024-02-29" := by decide +kernel
  have hnoon : String.ofList (trimmed " 2024-02-29T12:00:00 ".toList) = "2024-02-29T12:00:00" := by
    decide +kernel
  have hreads := readBound_reads_dates "2024-02-29"
  have hreads' := readBound_reads_dates " 2024-02-29T12:00:00 "
  rw [hday] at hreads
  rw [hnoon] at hreads'
  have hblank : ∀ c ∈ "\t".toList, isBlank c = true := List.all_eq_true.mp rfl
  have hblank' : ∀ c ∈ "\u3000".toList, isBlank c = true := List.all_eq_true.mp rfl
  exact ⟨hreads.2.1 (by decide +kernel), hreads.2.2.1 "\t" "\u3000" hblank hblank',
    hreads'.1 (.inr (by decide +kernel))⟩

end ChartData
