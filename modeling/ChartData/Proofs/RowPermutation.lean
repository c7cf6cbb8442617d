import ChartData.Proofs.MalformedRows

/-!
# Rows in another order

The store does not promise an order of rows, and where several rows share a unit the first one is
taken. So the order matters to a series in this respect, and in no other: rows put in another order
have the same report, counts included, as long as in each unit of the range the first row has the
same value (`SeriesOptions.report_perm_of_units`). Rows of different units, rows outside the range
and rows without a time can stand anywhere between each other.

The index that a pass builds differs from one order to the other, and so do the counts along the
way. What a report takes from them in the end does not (`SeriesOptions.reportOfTally_congr`): it
looks units up, and what is found there is the value of the first row (`Tally.Covers`); and the
counts are determined by the rows as a collection (`Tally.Accounts`).
-/

namespace ChartData

variable {u : CalendarUnit} {samples samples' : List Sample}

/-! ## Rows of a unit -/

theorem Sample.fallsIn_iff_ordinal? {s : Sample} {t : Instant} :
    s.FallsIn u t ↔ s.ordinal? u = some (u.ordinal t) := by
  cases h : s.instant with
  | ok time =>
    rw [fallsIn_iff_of_ok h, ordinal?_of_ok h, CalendarUnit.shared_iff_ordinal_eq,
      Option.some.injEq]
  | error e =>
    rw [ordinal?_of_error h]
    exact iff_of_false (not_fallsIn_of_error h) nofun

/-- The first row of a unit, by the ordinal of the unit. -/
theorem firstIn?_eq_find? (u : CalendarUnit) (t : Instant) (samples : List Sample) :
    firstIn? u t samples = samples.find? fun s => s.ordinal? u = some (u.ordinal t) := by
  unfold firstIn?
  congr 1
  funext s
  exact decide_eq_decide.2 Sample.fallsIn_iff_ordinal?

theorem takenOrdinals_perm (h : samples.Perm samples') :
    takenOrdinals u samples = takenOrdinals u samples' :=
  List.toFinset_eq_of_perm _ _ (h.filterMap _)

/-! ## Tallies of the same rows -/

namespace Tally

variable {options : SeriesOptions} {t t' : Tally}

/-- **The counts do not depend on the order of the rows.** -/
theorem Accounts.counts_eq_of_perm (ht : t.Accounts u samples) (ht' : t'.Accounts u samples')
    (h : samples.Perm samples') : t.skipped = t'.skipped ∧ t.duplicates = t'.duplicates := by
  have hskipped : t.skipped = t'.skipped := by
    rw [ht.skipped, ht'.skipped, h.countP_eq]
  have htotal := ht.total
  rw [h.length_eq, takenOrdinals_perm h, ht'.total] at htotal
  exact ⟨hskipped, by omega⟩

/-- **A pass has a tally** unless it fails at a row without a time. -/
theorem exists_ofSamples (h : options.onMalformed = .abort → ∀ s ∈ samples, s.IsTimed) :
    ∃ t, ofSamples options samples = .ok t := by
  cases hp : options.onMalformed with
  | skip => exact exists_foldlM_of_skip hp samples .empty
  | abort =>
    have hskip : (options.withPolicy .skip).onMalformed = .skip := rfl
    obtain ⟨t, ht⟩ := exists_foldlM_of_skip hskip samples .empty
    have hcongr : samples.foldlM (add options) Tally.empty =
        samples.foldlM (add (options.withPolicy .skip)) Tally.empty :=
      foldlM_add_congr (h hp) options.onMalformed .skip .empty
    exact ⟨t, hcongr.trans ht⟩

end Tally

/-! ## The report -/

namespace SeriesOptions

variable {options : SeriesOptions} {now first last : Instant} {range : DateRange}

/-- **All that a report takes from a tally**: what stands at the units of the range, and the
counts. -/
theorem reportOfTally_congr {t t' : Tally}
    (hindex : ∀ time ∈ options.unit.units first last,
      t.index[options.unit.ordinal time]? = t'.index[options.unit.ordinal time]?)
    (hskipped : t.skipped = t'.skipped) (hduplicates : t.duplicates = t'.duplicates) :
    options.reportOfTally first last t = options.reportOfTally first last t' := by
  have hbuckets : (options.unit.units first last).map (options.bucket t.index) =
      (options.unit.units first last).map (options.bucket t'.index) := by
    refine List.map_congr_left fun time htime => ?_
    unfold bucket
    rw [hindex time htime]
  have hmatched : (options.unit.units first last).countP
        (fun time => options.unit.ordinal time ∈ t.index) =
      (options.unit.units first last).countP fun time => options.unit.ordinal time ∈ t'.index := by
    refine List.countP_congr fun time htime => ?_
    rw [decide_eq_true_iff, decide_eq_true_iff, Std.HashMap.mem_iff_isSome_getElem?,
      Std.HashMap.mem_iff_isSome_getElem?, hindex time htime]
  unfold reportOfTally
  rw [hbuckets, hmatched, hskipped, hduplicates]

/-- **Rows in another order have the same report** if in each unit of the range the first row has
the same value. -/
theorem report_perm_of_units (hperm : samples.Perm samples')
    (hpolicy : options.onMalformed = .abort → ∀ s ∈ samples, s.IsTimed)
    (hfirst : ∀ first last, options.bounds now range = .ok (first, last) →
      ∀ time ∈ options.unit.units first last,
        (firstIn? options.unit time samples).map Sample.value =
          (firstIn? options.unit time samples').map Sample.value) :
    options.report now samples range = options.report now samples' range := by
  cases hb : options.bounds now range with
  | error e =>
    have hreport := report_of_bounds_eq_error hb options.onMalformed
    exact (hreport samples).trans (hreport samples').symm
  | ok bounds =>
    obtain ⟨first, last⟩ := bounds
    obtain ⟨t, ht⟩ := Tally.exists_ofSamples hpolicy
    obtain ⟨t', ht'⟩ := Tally.exists_ofSamples fun hp s hs => hpolicy hp s (hperm.mem_iff.2 hs)
    obtain ⟨hskipped, hduplicates⟩ :=
      (Tally.accounts_of_ofSamples ht).counts_eq_of_perm (Tally.accounts_of_ofSamples ht') hperm
    have htally : options.reportOfTally first last t = options.reportOfTally first last t' := by
      refine reportOfTally_congr (fun time htime => ?_) hskipped hduplicates
      rw [Tally.covers_of_ofSamples ht, Tally.covers_of_ofSamples ht']
      exact hfirst first last hb time htime
    rw [report_of_ofSamples_eq_ok ht hb, report_of_ofSamples_eq_ok ht' hb, htally]

/-- **The order of rows matters only within a unit, and there only to what comes first.**

Rows in another order have the same report over every range, or the same error, if in every unit
the first row has the same value in both orders; rows without a time must be passed over, or there
must be none. For one range it is enough that the rows of each of its units stand in the same order
as before: they may be interleaved in any way, and all other rows may stand anywhere. -/
theorem report_perm (hperm : samples.Perm samples')
    (hpolicy : options.onMalformed = .abort → ∀ s ∈ samples, s.IsTimed) :
    ((∀ k, (samples.find? fun s => s.ordinal? options.unit = some k).map Sample.value =
        (samples'.find? fun s => s.ordinal? options.unit = some k).map Sample.value) →
      ∀ now range, options.report now samples range = options.report now samples' range) ∧
    ∀ now range,
      (∀ first last, options.bounds now range = .ok (first, last) →
        ∀ k ∈ (options.unit.units first last).map options.unit.ordinal,
          (samples.filter fun s => s.ordinal? options.unit = some k) =
            samples'.filter fun s => s.ordinal? options.unit = some k) →
      options.report now samples range = options.report now samples' range := by
  constructor
  · intro hfirst now range
    refine report_perm_of_units hperm hpolicy fun first last _ time _ => ?_
    rw [firstIn?_eq_find?, firstIn?_eq_find?]
    exact hfirst _
  · intro now range hfilter
    refine report_perm_of_units hperm hpolicy fun first last hb time htime => ?_
    rw [firstIn?_eq_find?, firstIn?_eq_find?, ← List.head?_filter, ← List.head?_filter,
      hfilter first last hb _ (List.mem_map_of_mem htime)]

/-- Two rows of a day, a row of the next and a row without a time, interleaved in two ways; and two
rows of a day outside the range, turned round. -/
theorem report_perm_of_interleaved :
    let options : SeriesOptions := default
    let eve : Instant := ⟨-86400, 0, by decide, by decide, by decide⟩
    let epoch : Instant := ⟨0, 0, by decide, by decide, by decide⟩
    let late : Sample := ⟨some "1969-12-31 23:30:00", .finite .one⟩
    let early : Sample := ⟨some "1969-12-31 01:00:00", .finite .zero⟩
    let next : Sample := ⟨some "1970-01-01 12:00:00", .finite .zero⟩
    let bad : Sample := ⟨none, .finite .zero⟩
    let outside : List Sample :=
      [⟨some "2024-02-29 00:00:00", .finite .one⟩, ⟨some "2024-02-29 01:00:00", .finite .zero⟩]
    let range : DateRange := ⟨some "1969-12-31", some "1970-01-01"⟩
    (∀ now range, options.report now [late, next, bad, early] range =
      options.report now [bad, late, early, next] range) ∧
    options.bounds epoch range = .ok (eve, epoch) ∧
      options.report epoch (outside ++ [late, early]) range =
        options.report epoch (late :: outside.reverse ++ [early]) range := by
  intro options eve epoch late early next bad outside range
  have hpolicy {samples : List Sample} : options.onMalformed = .abort → ∀ s ∈ samples, s.IsTimed :=
    nofun
  have hbounds : options.bounds epoch range = .ok (eve, epoch) := rfl
  refine ⟨(report_perm (by decide) hpolicy).1 fun k => ?_, hbounds,
    (report_perm (by decide) hpolicy).2 epoch range fun first last hb k hk => ?_⟩
  · have hlate : late.ordinal? options.unit = some (-1) := by decide +kernel
    have hearly : early.ordinal? options.unit = some (-1) := by decide +kernel
    have hnext : next.ordinal? options.unit = some 0 := by decide +kernel
    have hbad : bad.ordinal? options.unit = none := by decide +kernel
    simp only [List.find?_cons, hlate, hearly, hnext, hbad]
    by_cases hk : -1 = k
    · subst hk
      rfl
    · by_cases hk' : 0 = k <;> simp [hk, hk']
  · cases hbounds.symm.trans hb
    have hunits : (options.unit.units eve epoch).map options.unit.ordinal = [-1, 0] := by
      decide +kernel
    have hunit : ∀ k ∈ [(-1 : Int), 0],
        ((outside ++ [late, early]).filter fun s => s.ordinal? options.unit = some k) =
          (late :: outside.reverse ++ [early]).filter fun s =>
            s.ordinal? options.unit = some k := by
      decide +kernel
    exact hunit k (hunits ▸ hk)

end SeriesOptions

end ChartData
