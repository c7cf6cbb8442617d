import ChartData.Series.CalendarUnit
import Mathlib.Data.List.Chain

/-!
# The units of a range

The units of a range are listed by walking from one beginning to the next. Their ordinals are what
the walk is about: they are consecutive, from that of the first instant through that of the last
(`CalendarUnit.map_ordinal_units`), so each unit of the range is there once and no other is.

A beginning is told by its ordinal, and the next beginning has the next ordinal. Where the next one
is not representable the walk ends early, and misses nothing: no representable instant is that late.

So the unit of an instant of the range stands at the place that the difference of the ordinals says
(`CalendarUnit.getElem?_units`), and with that the list is known: how long it is, where it begins
and ends, and what stands in between (`CalendarUnit.units_are_consecutive`).
-/

namespace ChartData

namespace CalendarUnit

variable {u : CalendarUnit} {s t next first last : Instant}

/-- The ordinals go with time. -/
theorem ordinal_le_of_le (u : CalendarUnit) (h : s ≤ t) : u.ordinal s ≤ u.ordinal t :=
  Int.ediv_le_ediv u.seconds_pos (Instant.seconds_le_of_le h)

/-- The ordinals of representable instants are close to each other, against what an integer of 64
bits holds. -/
theorem ordinal_sub_lt (u : CalendarUnit) (first last : Instant) :
    u.ordinal last - u.ordinal first < 0x1000000000000 := by
  have hfirst := first.first_le
  have hlast := last.le_last
  unfold firstSecond at hfirst
  unfold lastSecond at hlast
  cases u <;> simp only [ordinal, seconds] <;> omega

/-! ## Beginnings -/

/-- **Whether an instant is the beginning of a unit.** -/
def Begins (u : CalendarUnit) (t : Instant) : Prop :=
  t.seconds = u.seconds * u.ordinal t ∧ t.nanos = 0

/-- The floor is where the ordinal says. -/
theorem seconds_floor (u : CalendarUnit) (t : Instant) :
    (u.floor t).seconds = u.seconds * u.ordinal t := by
  have := Int.mul_ediv_add_emod t.seconds u.seconds
  show t.seconds - t.seconds % u.seconds = u.seconds * (t.seconds / u.seconds)
  omega

theorem ordinal_floor (u : CalendarUnit) (t : Instant) : u.ordinal (u.floor t) = u.ordinal t := by
  show (u.floor t).seconds / u.seconds = u.ordinal t
  rw [seconds_floor, Int.mul_ediv_cancel_left _ (Int.ne_of_gt u.seconds_pos)]

theorem begins_floor (u : CalendarUnit) (t : Instant) : u.Begins (u.floor t) := by
  unfold Begins
  rw [ordinal_floor]
  exact ⟨u.seconds_floor t, rfl⟩

/-- A beginning is told by its ordinal. -/
theorem Begins.eq_of_ordinal_eq (hs : u.Begins s) (ht : u.Begins t)
    (h : u.ordinal s = u.ordinal t) : s = t := by
  rw [Instant.ext_iff, hs.1, ht.1, h, hs.2, ht.2]
  exact ⟨rfl, rfl⟩

/-- The beginnings of units are the instants that are their own floors. -/
theorem begins_iff : u.Begins t ↔ u.floor t = t := by
  constructor
  · intro h
    exact (u.begins_floor t).eq_of_ordinal_eq h (u.ordinal_floor t)
  · intro h
    rw [← h]
    exact u.begins_floor t

/-- **A beginning is not after an instant exactly when its ordinal is not.** -/
theorem Begins.le_iff (h : u.Begins t) : t ≤ last ↔ u.ordinal t ≤ u.ordinal last := by
  refine ⟨u.ordinal_le_of_le, fun ho => ?_⟩
  have hle : t.seconds ≤ last.seconds :=
    calc
      t.seconds = u.seconds * u.ordinal t := h.1
      _ ≤ u.seconds * u.ordinal last :=
        Int.mul_le_mul_of_nonneg_left ho (Int.le_of_lt u.seconds_pos)
      _ ≤ last.seconds := Int.mul_ediv_self_le (Int.ne_of_gt u.seconds_pos)
  have := h.2
  rw [Instant.le_def]
  omega

/-- No beginning is in a leap second. -/
theorem Begins.not_isLeap (h : u.Begins t) : ¬t.IsLeap := by
  have := h.2
  unfold Instant.IsLeap
  omega

/-- **The next beginning has the next ordinal.** -/
theorem Begins.later (h : u.Begins t) (hn : t.later? u.ticks = some next) :
    u.Begins next ∧ u.ordinal next = u.ordinal t + 1 := by
  obtain ⟨hs, hnanos⟩ : next.seconds = t.seconds + u.seconds ∧ next.nanos = 0 := by
    obtain ⟨hticks, hleap⟩ := (Instant.later?_eq_some_iff h.not_isLeap).mp hn
    have := h.2
    unfold Instant.IsLeap at hleap
    unfold Instant.ticks ticks at hticks
    omega
  have hpos : u.seconds ≠ 0 := Int.ne_of_gt u.seconds_pos
  have ho : u.ordinal next = u.ordinal t + 1 := by
    show next.seconds / u.seconds = t.seconds / u.seconds + 1
    rw [hs, Int.add_ediv_of_dvd_right (Int.dvd_refl u.seconds), Int.ediv_self hpos]
  refine ⟨⟨?_, hnanos⟩, ho⟩
  rw [ho, hs, h.1, Int.mul_add, Int.mul_one]

/-- No representable instant is in a later unit than a beginning that has no next one. -/
theorem Begins.ordinal_le_of_later?_eq_none (h : u.Begins t) (hn : t.later? u.ticks = none)
    (last : Instant) : u.ordinal last ≤ u.ordinal t := by
  have hlate : last.seconds < t.seconds + u.seconds := by
    have := t.first_le
    have := last.le_last
    have := u.seconds_pos
    have := h.2
    rw [Instant.later?_of_not_isLeap h.not_isLeap, Instant.ofTicks?_eq_none_iff] at hn
    unfold Instant.ticks ticks at hn
    omega
  have : u.ordinal last < u.ordinal t + 1 := by
    refine Int.ediv_lt_of_lt_mul u.seconds_pos ?_
    rwa [Int.add_mul, Int.one_mul, Int.mul_comm, ← h.1]
  omega

/-! ## The walk -/

/-- **The ordinals of a walk** from a beginning on are consecutive, through that of the last
instant. -/
theorem map_ordinal_unitsFrom (h : u.Begins t) :
    (u.unitsFrom last t).map u.ordinal =
      (List.range (u.ordinal last + 1 - u.ordinal t).toNat).map fun i : Nat => u.ordinal t + i := by
  induction t using unitsFrom.induct u last with
  | case1 t hle ih =>
    have ho := h.le_iff.1 hle
    -- the walk lists this beginning and then walks on, and so does the range
    have hcount : (u.ordinal last + 1 - u.ordinal t).toNat =
        (u.ordinal last - u.ordinal t).toNat + 1 := by omega
    rw [unitsFrom, dif_pos hle, List.map_cons, hcount, List.range_succ_eq_map, List.map_cons,
      List.map_map]
    congr 1
    · omega
    · cases hn : t.later? u.ticks with
      | none =>
        have := h.ordinal_le_of_later?_eq_none hn last
        rw [show (u.ordinal last - u.ordinal t).toNat = 0 by omega]
        rfl
      | some next =>
        obtain ⟨hb, hnext⟩ := h.later hn
        show (u.unitsFrom last next).map u.ordinal = _
        rw [ih next hn hb, hnext]
        rw [show u.ordinal last + 1 - (u.ordinal t + 1) = u.ordinal last - u.ordinal t by omega]
        refine List.map_congr_left fun i _ => ?_
        show u.ordinal t + 1 + (i : Int) = u.ordinal t + ((i + 1 : Nat) : Int)
        omega
  | case2 t hle =>
    have ho : ¬u.ordinal t ≤ u.ordinal last := fun ho => hle (h.le_iff.2 ho)
    rw [unitsFrom, dif_neg hle, show (u.ordinal last + 1 - u.ordinal t).toNat = 0 by omega]
    rfl

/-- **The ordinals of the units of a range** are consecutive, from that of the first instant through
that of the last. -/
theorem map_ordinal_units (h : first ≤ last) :
    (u.units first last).map u.ordinal =
      (List.range (u.ordinal last + 1 - u.ordinal first).toNat).map fun i : Nat =>
        u.ordinal first + i := by
  unfold units
  rw [if_pos h, map_ordinal_unitsFrom (u.begins_floor first), ordinal_floor]

/-- **Each unit of a range is listed once.** -/
theorem nodup_map_ordinal_units (u : CalendarUnit) (first last : Instant) :
    ((u.units first last).map u.ordinal).Nodup := by
  by_cases h : first ≤ last
  · rw [map_ordinal_units h]
    refine List.Pairwise.map _ (fun i j hij => ?_) List.nodup_range
    omega
  · unfold units
    rw [if_neg h]
    exact List.nodup_nil

/-- **The units of a range** are those from that of the first instant through that of the last. -/
theorem mem_map_ordinal_units (h : first ≤ last) {k : Int} :
    k ∈ (u.units first last).map u.ordinal ↔ u.ordinal first ≤ k ∧ k ≤ u.ordinal last := by
  rw [map_ordinal_units h, List.mem_map]
  constructor
  · rintro ⟨i, hi, rfl⟩
    rw [List.mem_range] at hi
    omega
  · rintro ⟨hfirst, hlast⟩
    refine ⟨(k - u.ordinal first).toNat, ?_, by omega⟩
    rw [List.mem_range]
    omega

/-! ## The beginnings, one by one -/

/-- A walk from a beginning on lists beginnings. -/
theorem begins_of_mem_unitsFrom (h : u.Begins t) (hs : s ∈ u.unitsFrom last t) : u.Begins s := by
  induction t using unitsFrom.induct u last with
  | case1 t hle ih =>
    rw [unitsFrom, dif_pos hle] at hs
    rcases List.mem_cons.mp hs with rfl | hs
    · exact h
    · cases hn : t.later? u.ticks with
      | none =>
        rw [hn] at hs
        cases hs
      | some next =>
        rw [hn] at hs
        exact ih next hn (h.later hn).1 hs
  | case2 t hle =>
    rw [unitsFrom, dif_neg hle] at hs
    cases hs

/-- **The units of a range are listed by their beginnings.** -/
theorem begins_of_mem_units (hs : s ∈ u.units first last) : u.Begins s := by
  unfold units at hs
  split at hs
  · exact begins_of_mem_unitsFrom (u.begins_floor first) hs
  · cases hs

/-- **The number of units of a range** is one more than the ordinals differ by. -/
theorem length_units (h : first ≤ last) :
    ((u.units first last).length : Int) = u.ordinal last - u.ordinal first + 1 := by
  have hlength := congrArg List.length (map_ordinal_units (u := u) h)
  rw [List.length_map, List.length_map, List.length_range] at hlength
  have hle := u.ordinal_le_of_le h
  omega

/-- The unit at a place of a range is as many units after the first as the place says. -/
theorem ordinal_getElem_units {i : Nat} (hi : i < (u.units first last).length) :
    u.ordinal (u.units first last)[i] = u.ordinal first + i := by
  by_cases h : first ≤ last
  · have hplace := List.getElem_of_eq (map_ordinal_units (u := u) h) (by rwa [List.length_map])
    rwa [List.getElem_map, List.getElem_map, List.getElem_range] at hplace
  · unfold units at hi
    rw [if_neg h] at hi
    cases hi

/-- **The unit of an instant of a range** stands at the place that the difference of the ordinals
says. -/
theorem getElem?_units (h : first ≤ last) (hfirst : u.ordinal first ≤ u.ordinal t)
    (hlast : u.ordinal t ≤ u.ordinal last) :
    (u.units first last)[(u.ordinal t - u.ordinal first).toNat]? = some (u.floor t) := by
  have hlength := length_units (u := u) h
  have hplace : (u.ordinal t - u.ordinal first).toNat < (u.units first last).length := by omega
  rw [List.getElem?_eq_getElem hplace]
  refine congrArg some ((begins_of_mem_units (List.getElem_mem hplace)).eq_of_ordinal_eq
    (u.begins_floor t) ?_)
  rw [ordinal_getElem_units, ordinal_floor]
  omega

/-- **A range begins with the unit of its first instant.** -/
theorem head?_units (h : first ≤ last) : (u.units first last).head? = some (u.floor first) := by
  have hfirst := getElem?_units h (Int.le_refl _) (u.ordinal_le_of_le h)
  rwa [Int.sub_self, Int.toNat_zero, ← List.head?_eq_getElem?] at hfirst

/-- **A range ends with the unit of its last instant.** -/
theorem getLast?_units (h : first ≤ last) :
    (u.units first last).getLast? = some (u.floor last) := by
  have hlength := length_units (u := u) h
  have hlast := getElem?_units h (u.ordinal_le_of_le h) (Int.le_refl _)
  rwa [show (u.ordinal last - u.ordinal first).toNat = (u.units first last).length - 1 by omega,
    ← List.getLast?_eq_getElem?] at hlast

/-- **The beginning of a unit is listed if it lies between** the first unit of the range and the
last instant. -/
theorem mem_units_iff (h : first ≤ last) :
    t ∈ u.units first last ↔ u.Begins t ∧ u.floor first ≤ t ∧ t ≤ last := by
  rw [(u.begins_floor first).le_iff, ordinal_floor]
  constructor
  · intro ht
    obtain ⟨hfirst, hlast⟩ := (mem_map_ordinal_units h).mp (List.mem_map_of_mem ht)
    exact ⟨begins_of_mem_units ht, hfirst, (begins_of_mem_units ht).le_iff.mpr hlast⟩
  · rintro ⟨ht, hfirst, hlast⟩
    rw [← begins_iff.mp ht]
    exact List.mem_of_getElem? (getElem?_units h hfirst (ht.le_iff.mp hlast))

/-- **The units of a range follow each other** without a gap: each is one unit after the one
before it. -/
theorem isChain_units (u : CalendarUnit) (first last : Instant) :
    (u.units first last).IsChain fun s t => s.ticksBetween t = u.seconds * 1000000000 := by
  rw [List.isChain_iff_getElem]
  intro i hi
  have hs := begins_of_mem_units (List.getElem_mem (Nat.lt_of_succ_lt hi))
  have ht := begins_of_mem_units (List.getElem_mem hi)
  have hordinals : u.ordinal (u.units first last)[i + 1] =
      u.ordinal (u.units first last)[i] + 1 := by
    rw [ordinal_getElem_units, ordinal_getElem_units]
    omega
  rw [Instant.ticksBetween_of_not_isLeap hs.not_isLeap ht.not_isLeap]
  unfold Instant.ticks
  rw [hs.1, hs.2, ht.1, ht.2, hordinals, Int.mul_add]
  omega

/-- **The units of a range ascend.** -/
theorem pairwise_units (u : CalendarUnit) (first last : Instant) :
    (u.units first last).Pairwise (· < ·) := by
  rw [List.pairwise_iff_getElem]
  intro i j hi hj hij
  have hnot : ¬(u.units first last)[j] ≤ (u.units first last)[i] := by
    intro hle
    have hordinals := u.ordinal_le_of_le hle
    rw [ordinal_getElem_units, ordinal_getElem_units] at hordinals
    omega
  rw [Instant.le_def] at hnot
  rw [Instant.lt_def]
  omega

/-- **The units of a range are consecutive.** There is none if the first instant is after the last.
Otherwise there are as many as the ordinals say, each beginning where its ordinal says, on the whole
second; they ascend in even steps from the unit of the first instant to that of the last, and no
beginning in between is left out, not even where none comes after it. -/
theorem units_are_consecutive (u : CalendarUnit) (first last : Instant) :
    (last < first → u.units first last = []) ∧
    (first ≤ last →
      ((u.units first last).length : Int) = u.ordinal last - u.ordinal first + 1 ∧
      (∀ i (hi : i < (u.units first last).length),
        (u.units first last)[i].seconds = (u.ordinal first + i) * u.seconds ∧
          (u.units first last)[i].nanos = 0) ∧
      (u.units first last).Pairwise (· < ·) ∧
      ((u.units first last).IsChain fun s t => s.ticksBetween t = u.seconds * 1000000000) ∧
      (u.units first last).head? = some (u.floor first) ∧
      (u.units first last).getLast? = some (u.floor last) ∧
      ∀ t, t ∈ u.units first last ↔ u.floor t = t ∧ u.floor first ≤ t ∧ t ≤ last) := by
  constructor
  · intro h
    rw [Instant.lt_def] at h
    refine if_neg fun hle => ?_
    rw [Instant.le_def] at hle
    omega
  · intro h
    refine ⟨length_units h, fun i hi => ?_, u.pairwise_units first last, u.isChain_units first last,
      head?_units h, getLast?_units h, fun t => ?_⟩
    · have hb := begins_of_mem_units (List.getElem_mem hi)
      refine ⟨?_, hb.2⟩
      rw [hb.1, ordinal_getElem_units, Int.mul_comm]
    · rw [mem_units_iff h, begins_iff]

/-- The last two days that are representable, from half a second past a noon to the last instant. No
day comes after them. -/
theorem units_are_consecutive_at_the_end :
    let noon : Instant := ⟨8210266747200, 500000000, by decide, by decide, by decide⟩
    let midnight : Instant := ⟨8210266790400, 0, by decide, by decide, by decide⟩
    let last : Instant := ⟨8210266876799, 999999999, by decide, by decide, by decide⟩
    noon ≤ last ∧ midnight.later? day.ticks = none ∧ (day.units noon last).length = 2 ∧
      (day.units noon last).getLast? = some midnight := by
  intro noon midnight last
  have h : noon ≤ last := by decide
  obtain ⟨hlength, -, -, -, -, hlast, -⟩ := (units_are_consecutive day noon last).2 h
  have hordinals : day.ordinal last - day.ordinal noon + 1 = 2 := by decide
  have hfloor : day.floor last = midnight := by decide
  rw [hordinals] at hlength
  exact ⟨h, by decide, Int.ofNat.inj hlength, hfloor ▸ hlast⟩

end CalendarUnit

end ChartData
