import ChartData.Proofs.RowIndex
import ChartData.Proofs.UnitRange
import Mathlib.Data.Finset.Card

/-!
# What becomes of the rows

A report counts the rows without a time that can be read, the rows whose unit an earlier row had
taken, and the buckets that found a row. The counts are kept while the rows and then the buckets are
gone through; here it is said what they count (`SeriesOptions.report_accounts_for_rows`).

The first two, and the units that rows have taken, make up all rows: a row is skipped, or it is the
first of its unit, or it repeats one. This is the invariant of the pass (`Tally.Accounts`), and
every row adds to exactly one of the three. A bucket finds a row when its unit is taken, and the
units of the range are listed once each, so the buckets that do are as many as the units taken in
the range.
-/

namespace ChartData

/-! ## The rows and their units -/

namespace Sample

/-- **Whether a row has a time** that can be read. -/
def IsTimed (s : Sample) : Prop := ∃ time, s.instant = .ok time

instance : DecidablePred IsTimed := fun s =>
  match h : s.instant with
  | .ok time => isTrue ⟨time, h⟩
  | .error _ => isFalse fun ⟨_, ht⟩ => by rw [h] at ht; cases ht

/-- A row has a time, or there is a reason why not. -/
theorem not_isTimed_iff {s : Sample} : ¬s.IsTimed ↔ ∃ e, s.instant = .error e := by
  unfold IsTimed
  cases s.instant with
  | ok time => simp
  | error e => simp

/-- **The ordinal of the unit that a row falls in**; none if it has no time. -/
def ordinal? (u : CalendarUnit) (s : Sample) : Option Int := s.instant.toOption.map u.ordinal

theorem ordinal?_of_ok {u : CalendarUnit} {s : Sample} {time : Instant} (h : s.instant = .ok time) :
    s.ordinal? u = some (u.ordinal time) := by
  unfold ordinal?
  rw [h]
  rfl

theorem ordinal?_of_error {u : CalendarUnit} {s : Sample} {e : Error} (h : s.instant = .error e) :
    s.ordinal? u = none := by
  unfold ordinal?
  rw [h]
  rfl

end Sample

variable {u : CalendarUnit} {samples : List Sample} {s : Sample}

/-- **The ordinals of the units that rows fall in**, each once however many rows there are. -/
def takenOrdinals (u : CalendarUnit) (samples : List Sample) : Finset Int :=
  (samples.filterMap (Sample.ordinal? u)).toFinset

theorem takenOrdinals_append_of_some {k : Int} (h : s.ordinal? u = some k) :
    takenOrdinals u (samples ++ [s]) = insert k (takenOrdinals u samples) := by
  unfold takenOrdinals
  rw [List.filterMap_append, List.filterMap_cons_some h, List.filterMap_nil]
  ext j
  simp

theorem takenOrdinals_append_of_none (h : s.ordinal? u = none) :
    takenOrdinals u (samples ++ [s]) = takenOrdinals u samples := by
  unfold takenOrdinals
  rw [List.filterMap_append, List.filterMap_cons_none h, List.filterMap_nil, List.append_nil]

/-- The ordinal of the unit that the row at a place falls in. -/
def ordinalAt? (u : CalendarUnit) (samples : List Sample) (i : Nat) : Option Int :=
  samples[i]?.bind (Sample.ordinal? u)

theorem ordinalAt?_append {i : Nat} (h : i < samples.length) (rest : List Sample) :
    ordinalAt? u (samples ++ rest) i = ordinalAt? u samples i := by
  unfold ordinalAt?
  rw [List.getElem?_append_left h]

theorem ordinalAt?_length (samples : List Sample) (s : Sample) :
    ordinalAt? u (samples ++ [s]) samples.length = s.ordinal? u := by
  unfold ordinalAt?
  rw [List.getElem?_append_right (Nat.le_refl _), Nat.sub_self]
  rfl

theorem mem_takenOrdinals_iff {k : Int} :
    k ∈ takenOrdinals u samples ↔ ∃ j < samples.length, ordinalAt? u samples j = some k := by
  unfold takenOrdinals ordinalAt?
  rw [List.mem_toFinset, List.mem_filterMap]
  constructor
  · rintro ⟨s, hs, hk⟩
    obtain ⟨j, hj⟩ := List.mem_iff_getElem?.1 hs
    refine ⟨j, (List.getElem?_eq_some_iff.1 hj).1, ?_⟩
    rw [hj]
    exact hk
  · rintro ⟨j, -, hk⟩
    obtain ⟨s, hs, hk⟩ := Option.bind_eq_some_iff.1 hk
    exact ⟨s, List.mem_of_getElem? hs, hk⟩

/-- **Whether the row at a place repeats a unit**: it falls in a unit that a row before it fell
in. -/
def Repeats (u : CalendarUnit) (samples : List Sample) (i : Nat) : Prop :=
  ∃ k, ordinalAt? u samples i = some k ∧ ∃ j < i, ordinalAt? u samples j = some k

instance : DecidablePred (Repeats u samples) := fun i =>
  match h : ordinalAt? u samples i with
  | some k =>
    decidable_of_iff (∃ j < i, ordinalAt? u samples j = some k)
      ⟨fun hj => ⟨k, h, hj⟩, fun ⟨_, hk, hj⟩ => Option.some.inj (h.symm.trans hk) ▸ hj⟩
  | none => isFalse fun ⟨_, hk, _⟩ => by rw [h] at hk; cases hk

/-- Whether a row repeats a unit does not depend on later rows. -/
theorem repeats_append_iff {i : Nat} (h : i < samples.length) (rest : List Sample) :
    Repeats u (samples ++ rest) i ↔ Repeats u samples i := by
  unfold Repeats
  rw [ordinalAt?_append h]
  refine exists_congr fun k => and_congr_right fun _ => exists_congr fun j => and_congr_right ?_
  intro hj
  rw [ordinalAt?_append (Nat.lt_trans hj h)]

/-- The last row repeats a unit if its unit is taken. -/
theorem repeats_length_iff (samples : List Sample) (s : Sample) :
    Repeats u (samples ++ [s]) samples.length ↔
      ∃ k, s.ordinal? u = some k ∧ k ∈ takenOrdinals u samples := by
  unfold Repeats
  rw [ordinalAt?_length]
  refine exists_congr fun k => and_congr_right fun _ => ?_
  rw [mem_takenOrdinals_iff]
  refine exists_congr fun j => and_congr_right fun hj => ?_
  rw [ordinalAt?_append hj]

/-- **How many rows repeat a unit.** -/
def repeatCount (u : CalendarUnit) (samples : List Sample) : Nat :=
  (List.range samples.length).countP fun i => Repeats u samples i

/-- A row more is one repetition more if it is one. -/
theorem repeatCount_append (samples : List Sample) (s : Sample) :
    repeatCount u (samples ++ [s]) =
      repeatCount u samples + if Repeats u (samples ++ [s]) samples.length then 1 else 0 := by
  unfold repeatCount
  rw [List.length_append, List.length_singleton, List.range_succ, List.countP_append,
    List.countP_singleton]
  congr 1
  · refine List.countP_congr fun i hi => ?_
    rw [decide_eq_true_iff, decide_eq_true_iff]
    exact repeats_append_iff (List.mem_range.1 hi) [s]
  · simp

/-! ## The invariant of the pass -/

namespace Tally

variable {options : SeriesOptions} {t t' : Tally}

/-- **A tally accounts for rows** when it says of each of them what became of it: the units taken
are those that rows fall in, the rows skipped are those without a time, the duplicates are those
that repeat a unit, and there is no other row. -/
structure Accounts (u : CalendarUnit) (t : Tally) (samples : List Sample) : Prop where
  taken : ∀ k, k ∈ t.index ↔ k ∈ takenOrdinals u samples
  skipped : t.skipped = samples.countP fun s => ¬s.IsTimed
  duplicates : t.duplicates = repeatCount u samples
  total : samples.length = t.skipped + t.duplicates + (takenOrdinals u samples).card

/-- Where all rows have a time, none is skipped. -/
theorem Accounts.skipped_eq_zero (ha : t.Accounts u samples) (h : ∀ s ∈ samples, s.IsTimed) :
    t.skipped = 0 := by
  rw [ha.skipped, List.countP_eq_zero]
  intro s hs
  simpa using h s hs

/-- Nothing accounts for no rows. -/
theorem accounts_empty (u : CalendarUnit) : empty.Accounts u [] where
  taken k := ⟨fun h => absurd h Std.HashMap.not_mem_empty, fun h => absurd h (Finset.notMem_empty k)⟩
  skipped := rfl
  duplicates := rfl
  total := rfl

/-- A row without a time is skipped and repeats nothing. -/
theorem Accounts.skip (ha : t.Accounts u samples) {e : Error} (hs : s.instant = .error e) :
    { t with skipped := t.skipped + 1 : Tally }.Accounts u (samples ++ [s]) := by
  have ho := Sample.ordinal?_of_error (u := u) hs
  have hr : ¬Repeats u (samples ++ [s]) samples.length := by
    rw [repeats_length_iff, ho]
    rintro ⟨k, hk, -⟩
    cases hk
  constructor
  · rw [takenOrdinals_append_of_none ho]
    exact ha.taken
  · rw [List.countP_append, List.countP_singleton, ← ha.skipped,
      if_pos (decide_eq_true (Sample.not_isTimed_iff.2 ⟨e, hs⟩))]
  · rw [repeatCount_append, if_neg hr]
    exact ha.duplicates
  · have := ha.total
    rw [List.length_append, List.length_singleton, takenOrdinals_append_of_none ho]
    show samples.length + 1 = t.skipped + 1 + t.duplicates + _
    omega

/-- **A row with a time** takes its unit or repeats it. -/
theorem Accounts.place (ha : t.Accounts u samples) {time : Instant} (hs : s.instant = .ok time) :
    (t.place (u.ordinal time) s.value).Accounts u (samples ++ [s]) := by
  have ho := Sample.ordinal?_of_ok (u := u) hs
  have hskipped : t.skipped = (samples ++ [s]).countP fun s => ¬s.IsTimed := by
    have htimed : s.IsTimed := ⟨time, hs⟩
    rw [List.countP_append, List.countP_singleton, ← ha.skipped, if_neg (by simpa using htimed)]
    rfl
  have hrepeats : Repeats u (samples ++ [s]) samples.length ↔ u.ordinal time ∈ t.index := by
    rw [repeats_length_iff, ho, ha.taken]
    simp
  have htotal := ha.total
  unfold Tally.place
  split
  · next hm =>
    have htaken := (ha.taken _).1 hm
    constructor
    · rw [takenOrdinals_append_of_some ho, Finset.insert_eq_of_mem htaken]
      exact ha.taken
    · exact hskipped
    · rw [repeatCount_append, if_pos (hrepeats.2 hm), ← ha.duplicates]
    · rw [List.length_append, List.length_singleton, takenOrdinals_append_of_some ho,
        Finset.insert_eq_of_mem htaken]
      show samples.length + 1 = t.skipped + (t.duplicates + 1) + _
      omega
  · next hm =>
    have hfree : u.ordinal time ∉ takenOrdinals u samples := fun h => hm ((ha.taken _).2 h)
    constructor
    · intro k
      rw [takenOrdinals_append_of_some ho, Finset.mem_insert, ← ha.taken k,
        Std.HashMap.mem_insert, beq_iff_eq, eq_comm]
    · exact hskipped
    · rw [repeatCount_append, if_neg (mt hrepeats.1 hm)]
      exact ha.duplicates
    · rw [List.length_append, List.length_singleton, takenOrdinals_append_of_some ho,
        Finset.card_insert_of_notMem hfree]
      show samples.length + 1 = t.skipped + t.duplicates + _
      omega

/-- **One more row is accounted for.** -/
theorem Accounts.add (ha : t.Accounts options.unit samples) (h : t.add options s = .ok t') :
    t'.Accounts options.unit (samples ++ [s]) := by
  rcases add_cases h with ⟨time, hs, rfl⟩ | ⟨e, hs, -, rfl⟩
  · exact ha.place hs
  · exact ha.skip hs

/-- **A pass accounts for its rows.** -/
theorem accounts_of_ofSamples (h : ofSamples options samples = .ok t) :
    t.Accounts options.unit samples :=
  foldlM_induction Accounts.add (accounts_empty options.unit) h

end Tally

/-! ## The report -/

namespace CalendarUnit

variable {first last : Instant}

/-- **The units of a range that are taken** are counted by going through the range. -/
theorem countP_units_eq_card (u : CalendarUnit) (first last : Instant) (taken : Finset Int) :
    (u.units first last).countP (fun time => u.ordinal time ∈ taken) =
      if first ≤ last then
        (taken.filter fun k => u.ordinal first ≤ k ∧ k ≤ u.ordinal last).card
      else 0 := by
  split
  · next h =>
    have hmap : (u.units first last).countP (fun time => u.ordinal time ∈ taken) =
        ((u.units first last).map u.ordinal).countP (fun k => k ∈ taken) := by
      rw [List.countP_map]
      rfl
    rw [hmap, List.countP_eq_length_filter,
      ← List.toFinset_card_of_nodup ((u.nodup_map_ordinal_units first last).filter _)]
    congr 1
    ext k
    rw [List.mem_toFinset, List.mem_filter, mem_map_ordinal_units h, Finset.mem_filter,
      decide_eq_true_iff, and_comm]
  · next h =>
    unfold units
    rw [if_neg h]
    rfl

end CalendarUnit

namespace SeriesOptions

variable {options : SeriesOptions} {now first last : Instant} {range : DateRange} {r : Report}

/-- **Every row is accounted for once.** The rows skipped, the duplicates and the units that rows
fall in make up the rows. The rows skipped are those without a time that can be read, the duplicates
are those with an earlier row in their unit, inside the range or not, and the buckets that found a
row are as many as the units taken in the range. -/
theorem report_accounts_for_rows (hb : options.bounds now range = .ok (first, last))
    (h : options.report now samples range = .ok r) :
    samples.length = r.skipped + r.duplicates + (takenOrdinals options.unit samples).card ∧
      (r.skipped = samples.countP fun s => ¬s.IsTimed) ∧
      (r.duplicates =
        (List.range samples.length).countP fun i => Repeats options.unit samples i) ∧
      r.matched =
        if first ≤ last then
          ((takenOrdinals options.unit samples).filter fun k =>
            options.unit.ordinal first ≤ k ∧ k ≤ options.unit.ordinal last).card
        else 0 := by
  obtain ⟨first', last', tally, hb', ht, rfl⟩ := report_eq_ok_iff.1 h
  cases hb.symm.trans hb'
  have ha := Tally.accounts_of_ofSamples ht
  refine ⟨ha.total, ha.skipped, ha.duplicates, ?_⟩
  rw [← CalendarUnit.countP_units_eq_card]
  refine List.countP_congr fun time _ => ?_
  rw [decide_eq_true_iff, decide_eq_true_iff]
  exact ha.taken _

/-- Of seven rows around the beginning of 1970, two have no time, two fall in the last day of 1969
and three, which make two more duplicates, in a day far outside the range. -/
theorem report_accounts_for_rows_around_1970 :
    let options : SeriesOptions := default
    let eve : Instant := ⟨-86400, 0, by decide, by decide, by decide⟩
    let epoch : Instant := ⟨0, 0, by decide, by decide, by decide⟩
    let samples : List Sample :=
      [⟨some "2024-01-01 00:00:00", .finite .zero⟩, ⟨some "yesterday", .finite .zero⟩,
        ⟨some "1969-12-31 23:30:00", .finite .one⟩, ⟨some "2024-01-01 12:00:00", .finite .zero⟩,
        ⟨none, .finite .zero⟩, ⟨some "1969-12-31 01:00:00", .finite .zero⟩,
        ⟨some "2024-01-01 23:59:59", .finite .one⟩]
    let range : DateRange := ⟨some "1969-12-31", some "1970-01-01"⟩
    options.bounds epoch range = .ok (eve, epoch) ∧
      ∃ r, options.report epoch samples range = .ok r ∧
        r.skipped = 2 ∧ r.duplicates = 3 ∧ r.matched = 1 ∧
          samples.length = 2 + 3 + (takenOrdinals options.unit samples).card := by
  intro options eve epoch samples range
  have hb : options.bounds epoch range = .ok (eve, epoch) := rfl
  obtain ⟨r, hr⟩ := exists_report_of_skip rfl hb samples
  obtain ⟨htotal, hskipped, hduplicates, hmatched⟩ := report_accounts_for_rows hb hr
  have hs : r.skipped = 2 := hskipped.trans (by decide +kernel)
  have hd : r.duplicates = 3 := hduplicates.trans (by decide +kernel)
  rw [hs, hd] at htotal
  exact ⟨hb, r, hr, hs, hd, hmatched.trans (by decide +kernel), htotal⟩

end SeriesOptions

end ChartData
