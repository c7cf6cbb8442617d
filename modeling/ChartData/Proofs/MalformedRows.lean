import ChartData.Proofs.ReadBack
import ChartData.Proofs.RowAccounting
import Mathlib.Data.List.Induction

/-!
# Rows without a time, under either policy

A row whose time cannot be read is passed over or ends the series, as the policy says. Here the two
policies are compared on the same rows (`SeriesOptions.reports_under_both_policies`). They agree on
the range, since that comes before the rows, and on rows that all have a time. Where some row has
none, passing over leaves the series of the other rows, and giving up says what is wrong with the
first such row.

On a row with a time the policy is not asked for (`Tally.add_of_isTimed`), and that is all there is
to the agreement. Passing over a row leaves the index and the duplicates as they are, so a pass over
all rows differs from one over the rows with a time by the number of rows skipped and nothing else
(`Tally.exists_foldlM_filter`).
-/

namespace ChartData

/-- **The options with a policy** for rows without a time. -/
def SeriesOptions.withPolicy (options : SeriesOptions) (p : MalformedRows) : SeriesOptions :=
  { options with onMalformed := p }

namespace Sample

/-- **What is wrong with a row without a time** is a fault of the text of its time, which is empty
where there is none. -/
theorem exists_fault_of_error {s : Sample} {e : Error} (h : s.instant = .error e) :
    ∃ fault, e = .unreadableTimestamp (s.timestamp?.getD "") fault := by
  unfold instant at h
  cases ht : s.timestamp? with
  | none =>
    rw [ht] at h
    cases h
    exact ⟨.missing, rfl⟩
  | some text =>
    rw [ht] at h
    obtain ⟨fault, -, rfl⟩ := refuse_eq_error_iff.1 h
    exact ⟨fault, rfl⟩

end Sample

namespace Tally

variable {options : SeriesOptions} {rows before after : List Sample} {s : Sample} {t : Tally}

/-! ## One row -/

/-- **A row with a time is placed**, whatever the policy. -/
theorem add_of_isTimed {time : Instant} (h : s.instant = .ok time) (t : Tally) :
    t.add options s = .ok (t.place (options.unit.ordinal time) s.value) := by
  unfold add
  rw [h]

/-- A row without a time is counted where such rows are passed over. -/
theorem add_skip_of_error {e : Error} (h : s.instant = .error e) (t : Tally) :
    t.add (options.withPolicy .skip) s = .ok { t with skipped := t.skipped + 1 } := by
  unfold add
  rw [h]
  rfl

/-- A row without a time ends the pass where such rows are not. -/
theorem add_abort_of_error {e : Error} (h : s.instant = .error e) (t : Tally) :
    t.add (options.withPolicy .abort) s = .error e := by
  unfold add
  rw [h]
  rfl

/-- Rows skipped before a value is placed are still skipped after it. -/
theorem place_skipped_add (t : Tally) (n : Nat) (ordinal : Int) (value : Binary64) :
    { t with skipped := t.skipped + n : Tally }.place ordinal value =
      { t.place ordinal value with skipped := (t.place ordinal value).skipped + n } := by
  unfold place
  by_cases h : ordinal ∈ t.index
  · rw [if_pos h, if_pos h]
  · rw [if_neg h, if_neg h]

/-! ## A pass -/

/-- **The policy is of no account for rows with a time.** -/
theorem foldlM_add_congr (h : ∀ s ∈ rows, s.IsTimed) (p q : MalformedRows) (t : Tally) :
    rows.foldlM (add (options.withPolicy p)) t = rows.foldlM (add (options.withPolicy q)) t := by
  induction rows generalizing t with
  | nil => rfl
  | cons s rows ih =>
    obtain ⟨time, hs⟩ := h s List.mem_cons_self
    rw [List.foldlM_cons, List.foldlM_cons, add_of_isTimed hs, add_of_isTimed hs]
    exact ih (fun r hr => h r (List.mem_cons_of_mem s hr)) _

/-- **The first row without a time ends a pass** where such rows are not passed over. -/
theorem foldlM_abort_of_error (hb : ∀ r ∈ before, r.IsTimed) {e : Error}
    (hs : s.instant = .error e) (t : Tally) :
    (before ++ s :: after).foldlM (add (options.withPolicy .abort)) t = .error e := by
  have hskip : (options.withPolicy .skip).onMalformed = .skip := rfl
  obtain ⟨next, hnext⟩ := exists_foldlM_of_skip hskip before t
  rw [List.foldlM_append, foldlM_add_congr hb .abort .skip, bind_of_eq_ok hnext, List.foldlM_cons,
    add_abort_of_error hs]
  rfl

/-- **Passing over rows without a time** comes to a pass over the other rows, with the rows passed
over counted. -/
theorem exists_foldlM_filter (options : SeriesOptions) (rows : List Sample) (t : Tally) :
    ∃ t', (rows.filter fun s => s.IsTimed).foldlM (add (options.withPolicy .skip)) t = .ok t' ∧
      rows.foldlM (add (options.withPolicy .skip)) t =
        .ok { t' with skipped := t'.skipped + (rows.filter fun s => ¬s.IsTimed).length } := by
  induction rows using List.reverseRecOn with
  | nil => exact ⟨t, rfl, rfl⟩
  | append_singleton rows s ih =>
    obtain ⟨t', htimed, hall⟩ := ih
    have hlast (more : Tally) :
        [s].foldlM (add (options.withPolicy .skip)) more =
          more.add (options.withPolicy .skip) s := by
      rw [List.foldlM_cons]
      exact bind_pure _
    rw [List.filter_append, List.filter_append, List.foldlM_append, List.foldlM_append,
      bind_of_eq_ok htimed, bind_of_eq_ok hall, hlast]
    by_cases hs : s.IsTimed
    · obtain ⟨time, htime⟩ := id hs
      rw [List.filter_cons_of_pos (by simpa using hs), List.filter_nil,
        List.filter_cons_of_neg (by simpa using hs), List.filter_nil, List.append_nil, hlast,
        add_of_isTimed htime, add_of_isTimed htime, place_skipped_add]
      exact ⟨_, rfl, rfl⟩
    · obtain ⟨e, he⟩ := Sample.not_isTimed_iff.1 hs
      rw [List.filter_cons_of_neg (by simpa using hs), List.filter_nil, List.foldlM_nil,
        List.filter_cons_of_pos (by simpa using hs), List.filter_nil, add_skip_of_error he,
        List.length_append]
      exact ⟨t', rfl, rfl⟩

end Tally

/-! ## The report -/

namespace SeriesOptions

variable {options : SeriesOptions} {now first last : Instant} {samples : List Sample}
  {range : DateRange}

/-- The report of a tally over the range from one instant to another. -/
def reportOfTally (options : SeriesOptions) (first last : Instant) (t : Tally) : Report where
  buckets := (options.unit.units first last).map (options.bucket t.index)
  unit := options.unit
  matched := (options.unit.units first last).countP fun time => options.unit.ordinal time ∈ t.index
  skipped := t.skipped
  duplicates := t.duplicates

/-- The report of a range that stands for two instants is that of a tally of the rows. -/
theorem report_of_ofSamples_eq_ok {t : Tally} (ht : Tally.ofSamples options samples = .ok t)
    (hb : options.bounds now range = .ok (first, last)) :
    options.report now samples range = .ok (options.reportOfTally first last t) :=
  report_eq_ok_iff.2 ⟨first, last, t, hb, ht, rfl⟩

/-- **A report is that of its tally**, over whatever range the policy has no say in. -/
theorem report_withPolicy (hb : options.bounds now range = .ok (first, last)) (p : MalformedRows)
    (samples : List Sample) :
    (options.withPolicy p).report now samples range =
      (Tally.ofSamples (options.withPolicy p) samples).map (options.reportOfTally first last) := by
  have hp : (options.withPolicy p).bounds now range = .ok (first, last) := hb
  unfold report
  rw [bind_of_eq_ok hp]
  cases Tally.ofSamples (options.withPolicy p) samples with
  | ok t => rfl
  | error e => rfl

/-- A range that stands for nothing is refused before any row is looked at. -/
theorem report_of_bounds_eq_error {e : Error} (hb : options.bounds now range = .error e)
    (p : MalformedRows) (samples : List Sample) :
    (options.withPolicy p).report now samples range = .error e := by
  have hp : (options.withPolicy p).bounds now range = .error e := hb
  unfold report
  rw [hp]
  rfl

/-- **Where all rows have a time the policies agree.** -/
theorem report_congr_policy (hb : options.bounds now range = .ok (first, last))
    (h : ∀ s ∈ samples, s.IsTimed) (p q : MalformedRows) :
    (options.withPolicy p).report now samples range =
      (options.withPolicy q).report now samples range := by
  rw [report_withPolicy hb, report_withPolicy hb]
  exact congrArg _ (Tally.foldlM_add_congr h p q .empty)

/-- Passing over rows without a time always gives a report. -/
theorem exists_report_skip (hb : options.bounds now range = .ok (first, last))
    (samples : List Sample) :
    ∃ r, (options.withPolicy .skip).report now samples range = .ok r := by
  have hskip : (options.withPolicy .skip).onMalformed = .skip := rfl
  exact exists_report_of_skip hskip hb samples

/-- **Passing over rows without a time** gives the report of the other rows, and counts those passed
over. -/
theorem report_skip_eq (hb : options.bounds now range = .ok (first, last))
    (samples : List Sample) :
    ∃ r, (options.withPolicy .skip).report now (samples.filter fun s => s.IsTimed) range = .ok r ∧
      (options.withPolicy .skip).report now samples range =
        .ok { r with skipped := (samples.filter fun s => ¬s.IsTimed).length } := by
  obtain ⟨t, htimed, hall⟩ := Tally.exists_foldlM_filter options samples .empty
  have hnone : t.skipped = 0 :=
    (Tally.accounts_of_ofSamples htimed).skipped_eq_zero fun s hs => by
      simpa using List.of_mem_filter hs
  refine ⟨options.reportOfTally first last t, ?_, ?_⟩
  · rw [report_withPolicy hb]
    exact congrArg _ htimed
  · rw [report_withPolicy hb]
    refine (congrArg _ hall).trans ?_
    rw [hnone, Nat.zero_add]
    rfl

/-- Giving up at a row: all rows before it have a time, and it has none. -/
theorem report_abort_of_error (hb : options.bounds now range = .ok (first, last))
    {before after : List Sample} {s : Sample} (hbefore : ∀ r ∈ before, r.IsTimed) {e : Error}
    (hs : s.instant = .error e) :
    (options.withPolicy .abort).report now (before ++ s :: after) range = .error e := by
  rw [report_withPolicy hb]
  exact congrArg _ (Tally.foldlM_abort_of_error hbefore hs .empty)

/-- **Giving up says what is wrong with the first row without a time.** -/
theorem report_abort_of_find? (hb : options.bounds now range = .ok (first, last)) {s : Sample}
    (hs : samples.find? (fun s => ¬s.IsTimed) = some s) :
    ∃ fault, s.instant = .error (.unreadableTimestamp (s.timestamp?.getD "") fault) ∧
      (options.withPolicy .abort).report now samples range =
        .error (.unreadableTimestamp (s.timestamp?.getD "") fault) := by
  obtain ⟨huntimed, before, after, rfl, hbefore⟩ := List.find?_eq_some_iff_append.1 hs
  obtain ⟨e, he⟩ := Sample.not_isTimed_iff.1 (of_decide_eq_true huntimed)
  obtain ⟨fault, rfl⟩ := Sample.exists_fault_of_error he
  exact ⟨fault, he, report_abort_of_error hb (fun r hr => by simpa using hbefore r hr) he⟩

/-- **The same rows under both policies.**

A range that stands for nothing is refused under either, with the same error and whatever the rows.
Otherwise passing over rows without a time always gives a series: that of the other rows, with those
passed over counted. Giving up gives a series exactly where every row has a time, and then the same;
and where some row has none, it says what is wrong with the first of them. -/
theorem reports_under_both_policies (options : SeriesOptions) (now : Instant)
    (samples : List Sample) (range : DateRange) :
    (∀ e, options.bounds now range = .error e → ∀ p rows,
      (options.withPolicy p).report now rows range = .error e) ∧
    ∀ bounds, options.bounds now range = .ok bounds →
      (∃ r, (options.withPolicy .skip).report now (samples.filter fun s => s.IsTimed) range =
          .ok r ∧
        (options.withPolicy .skip).report now samples range =
          .ok { r with skipped := (samples.filter fun s => ¬s.IsTimed).length }) ∧
      ((∃ r, (options.withPolicy .abort).report now samples range = .ok r) ↔
        ∀ s ∈ samples, s.IsTimed) ∧
      ((∀ s ∈ samples, s.IsTimed) →
        (options.withPolicy .abort).report now samples range =
          (options.withPolicy .skip).report now samples range) ∧
      ∀ s, samples.find? (fun s => ¬s.IsTimed) = some s →
        ∃ fault, s.instant = .error (.unreadableTimestamp (s.timestamp?.getD "") fault) ∧
          (options.withPolicy .abort).report now samples range =
            .error (.unreadableTimestamp (s.timestamp?.getD "") fault) := by
  refine ⟨fun e hb p rows => report_of_bounds_eq_error hb p rows, fun ⟨first, last⟩ hb => ?_⟩
  refine ⟨report_skip_eq hb samples, ⟨?_, ?_⟩, fun h => report_congr_policy hb h .abort .skip,
    fun s hs => report_abort_of_find? hb hs⟩
  · rintro ⟨r, hr⟩
    -- a row without a time would be found, and its error is no report
    cases hfind : samples.find? (fun s => ¬s.IsTimed) with
    | none => simpa using hfind
    | some s =>
      obtain ⟨fault, -, herror⟩ := report_abort_of_find? hb hfind
      rw [herror] at hr
      cases hr
  · intro h
    have hskip : (options.withPolicy .skip).onMalformed = .skip := rfl
    rw [report_congr_policy hb h .abort .skip]
    exact exists_report_of_skip hskip hb samples

/-- Of four rows the second and the last have no time that can be read, the one for the date and the
other for having none at all. -/
theorem reports_under_both_policies_of_four_rows :
    let options : SeriesOptions := default
    let eve : Instant := ⟨-86400, 0, by decide, by decide, by decide⟩
    let epoch : Instant := ⟨0, 0, by decide, by decide, by decide⟩
    let bad : Sample := ⟨some "1969-02-30 00:00:00", .finite .zero⟩
    let timed : List Sample :=
      [⟨some "1969-12-31 23:30:00", .finite .one⟩, ⟨some "1969-12-31 01:00:00", .finite .zero⟩]
    let samples := timed.take 1 ++ [bad] ++ timed.drop 1 ++ [⟨none, .finite .zero⟩]
    let range : DateRange := ⟨some "1969-12-31", some "1970-01-01"⟩
    options.bounds epoch range = .ok (eve, epoch) ∧
      (∃ r, (options.withPolicy .skip).report epoch timed range = .ok r ∧
        (options.withPolicy .skip).report epoch samples range = .ok { r with skipped := 2 }) ∧
      (options.withPolicy .abort).report epoch samples range =
        .error (.unreadableTimestamp "1969-02-30 00:00:00" .noSuchDate) := by
  intro options eve epoch bad timed samples range
  have hb : options.bounds epoch range = .ok (eve, epoch) := rfl
  obtain ⟨-, h⟩ := reports_under_both_policies options epoch samples range
  obtain ⟨hskip, -, -, habort⟩ := h _ hb
  obtain ⟨fault, hfault, herror⟩ := habort bad (by decide +kernel)
  have htimed : (samples.filter fun s => s.IsTimed) = timed := by decide +kernel
  have hcount : (samples.filter fun s => ¬s.IsTimed).length = 2 := by decide +kernel
  have hbad : bad.instant = .error (.unreadableTimestamp "1969-02-30 00:00:00" .noSuchDate) := by
    decide +kernel
  rw [htimed, hcount] at hskip
  cases hfault.symm.trans hbad
  exact ⟨hb, hskip, herror⟩

end SeriesOptions

end ChartData
