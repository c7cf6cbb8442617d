import ChartData.Proofs.MalformedRows

/-!
# Rows of data and rows of known type

A row of data keeps its time and its value under names that the options give, and there may be
anything under these names or nothing, in a row that need not be an object. Still each row of data
amounts to a row of known type (`Json.typedRow`), with the same value and, if it has a time, the
same time; and a series of the one is a series of the other
(`SeriesOptions.reports_of_both_forms`).

What the two forms do not share is the reason why a row has no time. A row of data without a text
says that the text is missing; a row of known type always has a text, which is then empty, and an
empty text is no timestamp. The reason is only given where such rows are not passed over, and there
it is the same row that both are about.

A row of known type that is written as data and read back is the sample that it was
(`TypedRow.sample_toJson`): a value that is not finite is written as null, and both count as zero.
-/

namespace ChartData

/-- **The row of known type that a row of data amounts to**: with the string under the name of the
time, empty if there is none, and with the number that the value counts as. -/
def Json.typedRow (timestampField valueField : String) (row : Json) : TypedRow :=
  ⟨((row.entry? timestampField).bind string?).getD "",
    some (.finite (((row.entry? valueField).map coerced).getD .zero))⟩

/-! ## One row -/

namespace Sample

variable {s : Sample}

theorem isTimed_iff :
    s.IsTimed ↔ ∃ text time, s.timestamp? = some text ∧ readTimestamp text = .ok time := by
  obtain ⟨timestamp?, value⟩ := s
  unfold IsTimed instant
  cases timestamp? <;> simp

/-- **The sample with a text for its time**, empty if it has none. -/
def withText (s : Sample) : Sample := ⟨some (s.timestamp?.getD ""), s.value⟩

/-- A sample with a time has it from a text. -/
theorem withText_of_isTimed (h : s.IsTimed) : s.withText = s := by
  obtain ⟨timestamp?, value⟩ := s
  obtain ⟨text, -, rfl, -⟩ := isTimed_iff.1 h
  rfl

theorem map_withText_of_isTimed {samples : List Sample} (h : ∀ s ∈ samples, s.IsTimed) :
    samples.map withText = samples :=
  (List.map_congr_left fun s hs => withText_of_isTimed (h s hs)).trans (List.map_id samples)

/-- **A sample without a time has none with a text either**, and unless the text is what was
missing, for the same reason. -/
theorem exists_fault_of_not_isTimed (h : ¬s.IsTimed) :
    ∃ fault, s.withText.instant = .error (.unreadableTimestamp (s.timestamp?.getD "") fault) ∧
      s.instant = .error (.unreadableTimestamp (s.timestamp?.getD "")
        (if s.timestamp?.isSome then fault else .missing)) := by
  obtain ⟨e, he⟩ := not_isTimed_iff.1 h
  obtain ⟨timestamp?, value⟩ := s
  cases timestamp? with
  | none => exact ⟨.noSeparator, rfl, rfl⟩
  | some text =>
    obtain ⟨fault, rfl⟩ := exists_fault_of_error he
    exact ⟨fault, he, he⟩

end Sample

/-- Read as a sample, a row of data and its row of known type differ in the text alone. -/
theorem Json.sample_typedRow (timestampField valueField : String) (row : Json) :
    (row.typedRow timestampField valueField).sample =
      (row.sample timestampField valueField).withText :=
  rfl

/-- **A row of known type is the same sample when it is written as data.** -/
theorem TypedRow.sample_toJson (r : TypedRow) : r.toJson.sample "timestamp" "value" = r.sample := by
  obtain ⟨timestamp, value?⟩ := r
  cases value? with
  | none => rfl
  | some x => cases x <;> rfl

/-! ## All rows -/

namespace SeriesOptions

variable {options : SeriesOptions} {now first last : Instant} {range : DateRange}

/-- **Where rows without a time are passed over, texts make no difference**: with a text or without
one, a sample is placed at the same time or it is counted. -/
theorem report_skip_withText (hb : options.bounds now range = .ok (first, last))
    (samples : List Sample) :
    (options.withPolicy .skip).report now (samples.map Sample.withText) range =
      (options.withPolicy .skip).report now samples range := by
  rw [report_withPolicy hb, report_withPolicy hb]
  unfold Tally.ofSamples
  rw [List.foldlM_map]
  congr 2
  funext t s
  by_cases h : s.IsTimed
  · rw [Sample.withText_of_isTimed h]
  · obtain ⟨fault, htext, hnone⟩ := Sample.exists_fault_of_not_isTimed h
    rw [Tally.add_skip_of_error htext, Tally.add_skip_of_error hnone]

/-- **Where they are not passed over**, texts make no difference to a series, and they do not change
which row it fails at. -/
theorem report_abort_withText (hb : options.bounds now range = .ok (first, last))
    (samples : List Sample) :
    (∃ r, (options.withPolicy .abort).report now samples range = .ok r ∧
        (options.withPolicy .abort).report now (samples.map Sample.withText) range = .ok r) ∨
      ∃ before s after fault, samples = before ++ s :: after ∧ (∀ r ∈ before, r.IsTimed) ∧
        s.withText.instant = .error (.unreadableTimestamp (s.timestamp?.getD "") fault) ∧
        (options.withPolicy .abort).report now (samples.map Sample.withText) range =
          .error (.unreadableTimestamp (s.timestamp?.getD "") fault) ∧
        (options.withPolicy .abort).report now samples range =
          .error (.unreadableTimestamp (s.timestamp?.getD "")
            (if s.timestamp?.isSome then fault else .missing)) := by
  cases hfind : samples.find? fun s => ¬s.IsTimed with
  | none =>
    have htimed : ∀ s ∈ samples, s.IsTimed := by simpa using hfind
    obtain ⟨r, hr⟩ := exists_report_skip hb samples
    rw [← report_congr_policy hb htimed .abort .skip] at hr
    exact .inl ⟨r, hr, by rwa [Sample.map_withText_of_isTimed htimed]⟩
  | some s =>
    obtain ⟨huntimed, before, after, rfl, hbefore⟩ := List.find?_eq_some_iff_append.1 hfind
    replace hbefore : ∀ r ∈ before, r.IsTimed := fun r hr => by simpa using hbefore r hr
    obtain ⟨fault, htext, hnone⟩ :=
      Sample.exists_fault_of_not_isTimed (of_decide_eq_true huntimed)
    refine .inr ⟨before, s, after, fault, rfl, hbefore, htext, ?_, ?_⟩
    · rw [List.map_append, List.map_cons, Sample.map_withText_of_isTimed hbefore]
      exact report_abort_of_error hb hbefore htext
    · exact report_abort_of_error hb hbefore hnone

/-- The series of the rows of known type that rows of data amount to. -/
theorem reportOfRows_typedRow (options : SeriesOptions) (now : Instant) (rows : List Json)
    (range : DateRange) :
    options.reportOfRows now (rows.map (Json.typedRow options.timestampField options.valueField))
        range =
      options.report now
        ((rows.map (Json.sample options.timestampField options.valueField)).map Sample.withText)
        range := by
  unfold reportOfRows
  rw [List.map_map, List.map_map]
  exact congrArg (options.report now · range)
    (List.map_congr_left fun row _ => row.sample_typedRow _ _)

/-- **The same rows of data and of known type.**

A range that stands for nothing is refused for either form of the rows, with the same error.
Otherwise, where rows without a time are passed over, both have the same series. Where they are not,
both have the same series, or else both fail at the same row, the first that has no time; then they
give the same reason, unless the row has no text, which one form calls missing and the other finds
to be no timestamp.

Rows of known type that are written as data have the series that they have themselves, or fail with
the error that they fail with themselves. -/
theorem reports_of_both_forms (options : SeriesOptions) (now : Instant) (range : DateRange) :
    (∀ rows : List Json,
      let typed := rows.map (Json.typedRow options.timestampField options.valueField)
      let text := fun row : Json => (row.entry? options.timestampField).bind Json.string?
      (∀ e, options.bounds now range = .error e → ∀ p,
        (options.withPolicy p).reportOfData now rows range = .error e ∧
          (options.withPolicy p).reportOfRows now typed range = .error e) ∧
      ∀ bounds, options.bounds now range = .ok bounds →
        (∃ r, (options.withPolicy .skip).reportOfData now rows range = .ok r ∧
          (options.withPolicy .skip).reportOfRows now typed range = .ok r) ∧
        ((∃ r, (options.withPolicy .abort).reportOfData now rows range = .ok r ∧
            (options.withPolicy .abort).reportOfRows now typed range = .ok r) ∨
          ∃ before row after fault, rows = before ++ row :: after ∧
            (∀ r ∈ before, ∃ s time, text r = some s ∧ readTimestamp s = .ok time) ∧
            readTimestamp ((text row).getD "") =
              .error (.unreadableTimestamp ((text row).getD "") fault) ∧
            (options.withPolicy .abort).reportOfRows now typed range =
              .error (.unreadableTimestamp ((text row).getD "") fault) ∧
            (options.withPolicy .abort).reportOfData now rows range =
              .error (.unreadableTimestamp ((text row).getD "")
                (if (text row).isSome then fault else .missing)))) ∧
    ∀ rows : List TypedRow,
      ({ options with timestampField := "timestamp", valueField := "value" }).reportOfData now
          (rows.map TypedRow.toJson) range =
        options.reportOfRows now rows range := by
  refine ⟨fun rows => ?_, fun rows => ?_⟩
  · intro typed text
    let sample := Json.sample options.timestampField options.valueField
    have htyped (p : MalformedRows) :
        (options.withPolicy p).reportOfRows now typed range =
          (options.withPolicy p).report now ((rows.map sample).map Sample.withText) range :=
      reportOfRows_typedRow (options.withPolicy p) now rows range
    refine ⟨fun e hb p => ⟨report_of_bounds_eq_error hb p _, ?_⟩, fun ⟨first, last⟩ hb => ⟨?_, ?_⟩⟩
    · rw [htyped]
      exact report_of_bounds_eq_error hb p _
    · obtain ⟨r, hr⟩ := exists_report_skip hb (rows.map sample)
      refine ⟨r, hr, ?_⟩
      rw [htyped, report_skip_withText hb]
      exact hr
    · rw [htyped]
      rcases report_abort_withText hb (rows.map sample) with
        h | ⟨before, s, after, fault, hrows, hbefore, htext, htyped, hdata⟩
      · exact .inl h
      · obtain ⟨before, rest, rfl, rfl, hrest⟩ := List.map_eq_append_iff.1 hrows
        obtain ⟨row, after, rfl, rfl, rfl⟩ := List.map_eq_cons_iff.1 hrest
        refine .inr ⟨before, row, after, fault, rfl, fun r hr => ?_, htext, htyped, hdata⟩
        exact Sample.isTimed_iff.1 (hbefore _ (List.mem_map_of_mem hr))
  · unfold reportOfData reportOfRows
    rw [List.map_map]
    have hsample : Json.sample "timestamp" "value" ∘ TypedRow.toJson = TypedRow.sample := by
      funext r
      exact r.sample_toJson
    show options.report now (rows.map (Json.sample "timestamp" "value" ∘ TypedRow.toJson)) range = _
    rw [hsample]

/-- Of three rows of data the second has no time and the third is no object: passed over, they leave
the series of the first; otherwise both forms fail at the second, each for its own reason. -/
theorem reports_of_both_forms_of_textless_rows :
    let options : SeriesOptions := default
    let eve : Instant := ⟨-86400, 0, by decide, by decide, by decide⟩
    let epoch : Instant := ⟨0, 0, by decide, by decide, by decide⟩
    let rows : List Json :=
      [.object [("time_stamp", .string "1969-12-31 23:30:00"), ("count", .string " 1 ")],
        .object [("count", .bool true)], .array []]
    let typed : List TypedRow :=
      [⟨"1969-12-31 23:30:00", some (.finite .one)⟩, ⟨"", some (.finite .one)⟩,
        ⟨"", some (.finite .zero)⟩]
    let range : DateRange := ⟨some "1969-12-31", some "1970-01-01"⟩
    options.bounds epoch range = .ok (eve, epoch) ∧
      (∃ r, (options.withPolicy .skip).reportOfData epoch rows range = .ok r ∧
        (options.withPolicy .skip).reportOfRows epoch typed range = .ok r) ∧
      (options.withPolicy .abort).reportOfRows epoch typed range =
        .error (.unreadableTimestamp "" .noSeparator) ∧
      (options.withPolicy .abort).reportOfData epoch rows range =
        .error (.unreadableTimestamp "" .missing) := by
  intro options eve epoch rows typed range
  have hb : options.bounds epoch range = .ok (eve, epoch) := rfl
  have htyped : rows.map (Json.typedRow options.timestampField options.valueField) = typed := by
    decide +kernel
  have hdata : (options.withPolicy .abort).reportOfData epoch rows range =
      .error (.unreadableTimestamp "" .missing) := by decide +kernel
  obtain ⟨hrows, -⟩ := reports_of_both_forms options epoch range
  obtain ⟨hskip, habort⟩ := (hrows rows).2 _ hb
  rw [htyped] at hskip habort
  refine ⟨hb, hskip, ?_, hdata⟩
  rcases habort with ⟨r, hr, -⟩ | ⟨before, row, after, fault, -, -, hfault, herror, hmissing⟩
  · rw [hdata] at hr
    cases hr
  · -- the row that both fail at has the empty text, and what is wrong with that is known
    have htext := (Error.unreadableTimestamp.inj (Except.error.inj (hdata.symm.trans hmissing))).1
    rw [← htext] at hfault herror
    cases hfault.symm.trans (rfl : readTimestamp "" = .error (.unreadableTimestamp "" .noSeparator))
    exact herror

end SeriesOptions

end ChartData
