/-!
# Dates

The proleptic Gregorian calendar and its day numbers, day 0 being 1 January 1970. The years before
year 1 are counted on downwards through 0, and the leap rule holds for all of them.

A date is found from its day number in two steps. The year is the mean year of 146097 days in 400
years, corrected by one where the mean is off (`yearOfDay`), and the month is where the day of the
year falls when whole months are taken off it one by one (`placeIn`). `ofDayNumber_dayNumber` and
`dayNumber_ofDayNumber` say that dates and day numbers are the same thing, and because the type of
dates carries the bounds of the month and the day, every date exists. The numbers go with the
calendar (`dayNumber_lt_iff`): a date with an earlier year, month or day has the smaller one.
-/

namespace ChartData

/-- **Leap years**: every fourth, of the centuries every fourth. -/
def isLeapYear (year : Int) : Bool :=
  year % 4 == 0 && (year % 100 != 0 || year % 400 == 0)

/-- The lengths of the months of a year. -/
def monthLengths (year : Int) : List Nat :=
  [31, if isLeapYear year then 29 else 28, 31, 30, 31, 30, 31, 31, 30, 31, 30, 31]

/-- The days of a year. -/
def yearLength (year : Int) : Nat := if isLeapYear year then 366 else 365

/-- The leap days of the years from 1 to `year`, counted backwards from year 0 down. -/
def leapDays (year : Int) : Int :=
  year / 4 - year / 100 + year / 400

/-- The day number of the first of January. -/
def firstDayOfYear (year : Int) : Int :=
  365 * (year - 1970) + leapDays (year - 1) - 477

/-- **The year of a day**: the mean year, one less or one more where that is off. -/
def yearOfDay (day : Int) : Int :=
  let year := day * 400 / 146097 + 1970
  if day < firstDayOfYear year then year - 1
  else if firstDayOfYear (year + 1) ≤ day then year + 1
  else year

/-- **Where a number falls among stretches of given lengths**: the position of the stretch and the
place inside it, both from zero. -/
def placeIn : List Nat → Nat → Nat × Nat
  | [], n => (0, n)
  | len :: rest, n =>
    if n < len then (0, n)
    else
      let (i, m) := placeIn rest (n - len)
      (i + 1, m)

/-- The days of several stretches together. -/
def daysIn : List Nat → Nat
  | [] => 0
  | len :: rest => len + daysIn rest

/-! ## Facts about years and months -/

@[simp] theorem daysIn_append (lens lens' : List Nat) :
    daysIn (lens ++ lens') = daysIn lens + daysIn lens' := by
  induction lens with
  | nil => exact (Nat.zero_add _).symm
  | cons len rest ih => rw [List.cons_append, daysIn, ih, daysIn, Nat.add_assoc]

/-- The months of a year are its days. -/
theorem daysIn_monthLengths (year : Int) : daysIn (monthLengths year) = yearLength year := by
  unfold monthLengths yearLength
  split <;> rfl

/-- Leap days follow the mean of 97 in 400 years and never stray two days from it. -/
theorem leapDays_mean (year : Int) :
    97 * year - 591 ≤ 400 * leapDays year ∧ 400 * leapDays year ≤ 97 * year + 288 := by
  have h₁ : year / 400 = year / 4 / 25 / 4 := by omega
  have h₂ : year / 100 = year / 4 / 25 := by omega
  unfold leapDays
  omega

/-- A leap year has one leap day, another year none. -/
theorem leapDays_eq_add (year : Int) :
    leapDays year = leapDays (year - 1) + (if isLeapYear year then 1 else 0) := by
  unfold leapDays isLeapYear
  split
  · next h =>
    simp only [Bool.and_eq_true, beq_iff_eq, Bool.or_eq_true, bne_iff_ne, ne_eq] at h
    omega
  · next h =>
    simp only [Bool.and_eq_true, beq_iff_eq, Bool.or_eq_true, bne_iff_ne, ne_eq, not_and,
      not_or, Classical.not_not] at h
    by_cases h₄ : year % 4 = 0
    · have := h h₄
      omega
    · omega

/-- The next year begins when this one is over. -/
theorem firstDayOfYear_succ (year : Int) :
    firstDayOfYear (year + 1) = firstDayOfYear year + yearLength year := by
  have h := leapDays_eq_add year
  unfold firstDayOfYear yearLength
  rw [Int.add_sub_cancel, h]
  split <;> omega

/-- The year of a day has begun and is not over. -/
theorem yearOfDay_bounds (day : Int) :
    firstDayOfYear (yearOfDay day) ≤ day ∧ day < firstDayOfYear (yearOfDay day + 1) := by
  have before := leapDays_mean (day * 400 / 146097 + 1970 - 1 - 1)
  have here := leapDays_mean (day * 400 / 146097 + 1970 - 1)
  have after := leapDays_mean (day * 400 / 146097 + 1970)
  have beyond := leapDays_mean (day * 400 / 146097 + 1970 + 1)
  unfold yearOfDay
  simp only
  split
  · next h =>
    rw [Int.sub_add_cancel]
    unfold firstDayOfYear at *
    omega
  · split
    · next h =>
      unfold firstDayOfYear at *
      rw [Int.add_sub_cancel] at *
      rw [Int.add_sub_cancel] at *
      omega
    · next h₁ h₂ => omega

/-- Later years begin later. -/
theorem firstDayOfYear_mono {y z : Int} (h : y ≤ z) : firstDayOfYear y ≤ firstDayOfYear z := by
  obtain ⟨n, rfl⟩ : ∃ n : Nat, z = y + n := ⟨(z - y).toNat, by omega⟩
  clear h
  induction n with
  | zero => simp
  | succ n ih =>
    have := firstDayOfYear_succ (y + n)
    rw [Int.natCast_succ, ← Int.add_assoc]
    omega

/-- A day belongs to the only year that has begun and is not over. -/
theorem yearOfDay_eq {day year : Int} (h : firstDayOfYear year ≤ day)
    (h' : day < firstDayOfYear (year + 1)) : yearOfDay day = year := by
  have ⟨b, b'⟩ := yearOfDay_bounds day
  rcases Int.lt_trichotomy (yearOfDay day) year with hlt | heq | hgt
  · have := firstDayOfYear_mono (y := yearOfDay day + 1) (z := year) (by omega)
    omega
  · exact heq
  · have := firstDayOfYear_mono (y := year + 1) (z := yearOfDay day) (by omega)
    omega

/-- A place exists for every number below the sum of the lengths, and it is inside its stretch. -/
theorem placeIn_lt {lens : List Nat} {n : Nat} (h : n < daysIn lens) :
    ∃ hi : (placeIn lens n).1 < lens.length, (placeIn lens n).2 < lens[(placeIn lens n).1] := by
  induction lens generalizing n with
  | nil => exact absurd h (Nat.not_lt_zero n)
  | cons len rest ih =>
    unfold placeIn
    split
    · next hn => exact ⟨by simp, by simpa using hn⟩
    · next hn =>
      rw [daysIn] at h
      obtain ⟨hi, hm⟩ := ih (n := n - len) (by omega)
      exact ⟨by simpa using hi, by simpa using hm⟩

/-- The stretches before a place and the place inside its stretch make up the number. -/
theorem daysIn_take_placeIn (lens : List Nat) (n : Nat) :
    daysIn (lens.take (placeIn lens n).1) + (placeIn lens n).2 = n := by
  induction lens generalizing n with
  | nil => simp [placeIn, daysIn]
  | cons len rest ih =>
    unfold placeIn
    split
    · simp [daysIn]
    · next hn =>
      have := ih (n - len)
      simp only [List.take_succ_cons, daysIn]
      omega

/-- A place inside a stretch is where the number made up of it falls. -/
theorem placeIn_daysIn_take {lens : List Nat} {i m : Nat} (hi : i < lens.length)
    (hm : m < lens[i]) :
    placeIn lens (daysIn (lens.take i) + m) = (i, m) := by
  induction lens generalizing i with
  | nil => simp at hi
  | cons len rest ih =>
    cases i with
    | zero => simp_all [placeIn, daysIn]
    | succ i =>
      simp only [List.length_cons, Nat.add_lt_add_iff_right, List.getElem_cons_succ] at hi hm
      have hn : ¬daysIn ((len :: rest).take (i + 1)) + m < len := by
        simp only [List.take_succ_cons, daysIn]
        omega
      have hsub : daysIn ((len :: rest).take (i + 1)) + m - len = daysIn (rest.take i) + m := by
        simp only [List.take_succ_cons, daysIn]
        omega
      rw [placeIn, if_neg hn, hsub, ih hi hm]

/-- The stretches before a place are fewer days than those before a later one, by at least the
stretch that begins at the place. -/
theorem daysIn_take_add_le {lens : List Nat} {i j : Nat} (hi : i < lens.length) (hij : i < j) :
    daysIn (lens.take i) + lens[i] ≤ daysIn (lens.take j) := by
  obtain ⟨k, rfl⟩ : ∃ k, j = i + 1 + k := ⟨j - (i + 1), by omega⟩
  rw [List.take_add, daysIn_append, List.take_succ_eq_append_getElem hi, daysIn_append, daysIn,
    daysIn]
  omega

/-! ## Dates -/

/-- The days of a month, none for a number that is no month. -/
def monthLength (year : Int) (month : Nat) : Nat :=
  if month = 0 then 0 else (monthLengths year)[month - 1]?.getD 0

/-- **A date that exists.** -/
structure Date where
  /-- The year. -/
  year : Int
  /-- The month, from 1. -/
  month : Nat
  /-- The day of the month, from 1. -/
  day : Nat
  /-- Days are counted from 1. -/
  one_le_day : 1 ≤ day
  /-- The month has the day. -/
  day_le : day ≤ monthLength year month
deriving DecidableEq, Repr

namespace Date

/-- The date with the given fields, if it exists. -/
def ofFields? (year : Int) (month day : Nat) : Option Date :=
  if h : 1 ≤ day ∧ day ≤ monthLength year month then some ⟨year, month, day, h.1, h.2⟩ else none

/-- **The day number of a date.** -/
def dayNumber (d : Date) : Int :=
  firstDayOfYear d.year + daysIn ((monthLengths d.year).take (d.month - 1)) + d.day - 1

/-- A place in a year is a day of a month. -/
theorem le_monthLength_of_place {year : Int} {n : Nat} (h : n < yearLength year) :
    (placeIn (monthLengths year) n).2 + 1 ≤
      monthLength year ((placeIn (monthLengths year) n).1 + 1) := by
  obtain ⟨hi, hm⟩ := placeIn_lt (by rw [daysIn_monthLengths]; exact h)
  rw [monthLength, if_neg (by omega), Nat.add_sub_cancel, List.getElem?_eq_getElem hi]
  exact hm

/-- The day of the year, from zero, is below the length of the year. -/
theorem dayOfYear_lt (day : Int) :
    (day - firstDayOfYear (yearOfDay day)).toNat < yearLength (yearOfDay day) := by
  have h := yearOfDay_bounds day
  rw [firstDayOfYear_succ] at h
  omega

/-- **The date with a day number.** -/
def ofDayNumber (day : Int) : Date :=
  let year := yearOfDay day
  let place := placeIn (monthLengths year) (day - firstDayOfYear year).toNat
  ⟨year, place.1 + 1, place.2 + 1, by omega, le_monthLength_of_place (dayOfYear_lt day)⟩

/-- The date of a day number has that day number. -/
@[simp] theorem dayNumber_ofDayNumber (day : Int) : (ofDayNumber day).dayNumber = day := by
  have h := daysIn_take_placeIn (monthLengths (yearOfDay day))
    (day - firstDayOfYear (yearOfDay day)).toNat
  have := (yearOfDay_bounds day).1
  simp only [ofDayNumber, dayNumber, Nat.add_sub_cancel]
  omega

/-- A month has a length exactly when it is one of the months of the year. -/
theorem month_mem (d : Date) : 1 ≤ d.month ∧ d.month - 1 < (monthLengths d.year).length := by
  have h := Nat.le_trans d.one_le_day d.day_le
  unfold monthLength at h
  split at h
  · omega
  · next hm =>
    refine ⟨by omega, Nat.lt_of_not_le fun hlen => ?_⟩
    rw [List.getElem?_eq_none hlen] at h
    simp at h

/-- The day of a date is inside its month. -/
theorem day_sub_one_lt (d : Date) :
    d.day - 1 < (monthLengths d.year).get ⟨d.month - 1, d.month_mem.2⟩ := by
  have h := d.day_le
  have := d.one_le_day
  have := d.month_mem
  rw [monthLength, if_neg (by omega), List.getElem?_eq_getElem d.month_mem.2] at h
  simp only [Option.getD_some] at h
  simp only [List.get_eq_getElem]
  omega

/-- The days before a date in its year are fewer than the days of the year. -/
theorem daysIn_take_add_lt (d : Date) :
    daysIn ((monthLengths d.year).take (d.month - 1)) + (d.day - 1) < yearLength d.year := by
  have h := d.day_sub_one_lt
  simp only [List.get_eq_getElem] at h
  have split : daysIn (monthLengths d.year) =
      daysIn ((monthLengths d.year).take (d.month - 1)) +
        daysIn ((monthLengths d.year).drop (d.month - 1)) := by
    rw [← daysIn_append, List.take_append_drop]
  rw [List.drop_eq_getElem_cons d.month_mem.2, daysIn, daysIn_monthLengths] at split
  omega

/-- The day number of a date is one of the year of the date. -/
theorem dayNumber_bounds (d : Date) :
    firstDayOfYear d.year ≤ d.dayNumber ∧ d.dayNumber < firstDayOfYear (d.year + 1) := by
  have hlt := d.daysIn_take_add_lt
  have hday := d.one_le_day
  rw [firstDayOfYear_succ]
  unfold dayNumber
  omega

/-- A date is the date of its day number. -/
@[simp] theorem ofDayNumber_dayNumber (d : Date) : ofDayNumber d.dayNumber = d := by
  have hday := d.one_le_day
  have hyear : yearOfDay d.dayNumber = d.year :=
    yearOfDay_eq d.dayNumber_bounds.1 d.dayNumber_bounds.2
  have hplace : (d.dayNumber - firstDayOfYear d.year).toNat =
      daysIn ((monthLengths d.year).take (d.month - 1)) + (d.day - 1) := by
    unfold dayNumber
    omega
  have hp := placeIn_daysIn_take d.month_mem.2 d.day_sub_one_lt
  have hm := d.month_mem.1
  obtain ⟨year, month, day, h₁, h₂⟩ := d
  simp only [ofDayNumber, mk.injEq, hyear]
  simp only at hplace hp hday hm
  rw [hplace, hp]
  exact ⟨trivial, by omega, by omega⟩

/-! ## The order of dates -/

section Order

variable {d e : Date}

/-- Dates are the same where their fields are. -/
theorem ext_iff : d = e ↔ d.year = e.year ∧ d.month = e.month ∧ d.day = e.day := by
  cases d; cases e; simp

/-- A date is told by its day number. -/
theorem dayNumber_inj : d.dayNumber = e.dayNumber ↔ d = e := by
  constructor
  · intro h
    rw [← ofDayNumber_dayNumber d, h, ofDayNumber_dayNumber]
  · rintro rfl
    rfl

/-- A date of an earlier year has a smaller number. -/
theorem dayNumber_lt_of_year_lt (h : d.year < e.year) : d.dayNumber < e.dayNumber := by
  have hnext := firstDayOfYear_mono (show d.year + 1 ≤ e.year by omega)
  have := d.dayNumber_bounds.2
  have := e.dayNumber_bounds.1
  omega

/-- A date of an earlier month of the same year has a smaller number. -/
theorem dayNumber_lt_of_month_lt (hyear : d.year = e.year) (h : d.month < e.month) :
    d.dayNumber < e.dayNumber := by
  have hday := d.day_sub_one_lt
  have hfirst := d.month_mem.1
  have hmonths := daysIn_take_add_le d.month_mem.2 (show d.month - 1 < e.month - 1 by omega)
  have := e.one_le_day
  unfold dayNumber
  rw [← hyear]
  simp only [List.get_eq_getElem] at hday
  omega

/-- A date of an earlier day of the same month has a smaller number. -/
theorem dayNumber_lt_of_day_lt (hyear : d.year = e.year) (hmonth : d.month = e.month)
    (h : d.day < e.day) : d.dayNumber < e.dayNumber := by
  unfold dayNumber
  rw [hyear, hmonth]
  omega

/-- **Day numbers are in the order of the calendar**: by the year, within a year by the month, and
within a month by the day. -/
theorem dayNumber_lt_iff :
    d.dayNumber < e.dayNumber ↔
      d.year < e.year ∨ d.year = e.year ∧
        (d.month < e.month ∨ d.month = e.month ∧ d.day < e.day) := by
  constructor
  · intro h
    -- of two dates that differ one comes first by the fields, and the numbers say which
    have hyear : ¬e.year < d.year := fun hlt =>
      Int.lt_asymm h (dayNumber_lt_of_year_lt hlt)
    have hmonth : ¬(e.year = d.year ∧ e.month < d.month) := fun ⟨hy, hlt⟩ =>
      Int.lt_asymm h (dayNumber_lt_of_month_lt hy hlt)
    have hday : ¬(e.year = d.year ∧ e.month = d.month ∧ e.day < d.day) := fun ⟨hy, hm, hlt⟩ =>
      Int.lt_asymm h (dayNumber_lt_of_day_lt hy hm hlt)
    have hne : d ≠ e := fun heq => Int.lt_irrefl _ (heq ▸ h)
    rw [Ne, ext_iff] at hne
    omega
  · rintro (hyear | ⟨hyear, hmonth | ⟨hmonth, hday⟩⟩)
    · exact dayNumber_lt_of_year_lt hyear
    · exact dayNumber_lt_of_month_lt hyear hmonth
    · exact dayNumber_lt_of_day_lt hyear hmonth hday

end Order

end Date

end ChartData
