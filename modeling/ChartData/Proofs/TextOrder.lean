import ChartData.Proofs.RangeBounds
import Mathlib.Data.List.Lex
import Mathlib.Data.List.Sort
import Mathlib.Data.String.Basic

/-!
# The order of texts and the order of time

The labels of units and the timestamps of the store are compared as texts, by whoever sorts them or
asks for the rows from one of them on, and what is meant is the order of time. In the years that are
written with four digits the two orders are the same (`texts_follow_time`).

It is so for two reasons that have nothing to do with each other. A pattern writes each field in a
width that is always the same, so texts are in the order of the numbers that the fields show, the
first field that differs deciding (`Pattern.chars_lt_iff`). And the patterns that are written go
from the year down to the smallest field, so the numbers that they show are in the order of the
calendar and the clock, which is that of the units (`numbers_labelPattern_lt_iff`) and of the
times that clocks show (`numbers_timestamp_lt_iff`). Of the years only the first reason needs that
they have four digits.

What a clock shows is the second of an instant, or the next one in a leap second. So instants of one
second may have two timestamps, and instants of two seconds may have one
(`Instant.shownBefore_iff_of_not_isLeap`); but no clock goes backwards
(`Instant.not_shownBefore_of_le`).
-/

namespace ChartData

/-! ## Numerals in order -/

/-- Where the first parts of texts have the same length, they decide the order unless they are the
same. -/
theorem append_lt_append_iff {α : Type} [LT α] {as bs as' bs' : List α}
    (h : as.length = bs.length) :
    as ++ as' < bs ++ bs' ↔ as < bs ∨ as = bs ∧ as' < bs' := by
  induction as generalizing bs with
  | nil =>
    obtain rfl : bs = [] := by simpa using h.symm
    simp
  | cons a as ih =>
    cases bs with
    | nil => simp at h
    | cons b bs =>
      rw [List.cons_append, List.cons_append, List.cons_lt_cons_iff, List.cons_lt_cons_iff,
        ih (by simpa using h), List.cons.injEq, and_assoc, or_assoc, ← and_or_left]

/-- Where two orders agree on two things and on their images, both tell them apart or neither
does. -/
theorem eq_iff_of_lt_iff {α β : Type} [LinearOrder α] [LinearOrder β] {a b : α} {a' b' : β}
    (hlt : a < b ↔ a' < b') (hgt : b < a ↔ b' < a') : a = b ↔ a' = b' := by
  rw [le_antisymm_iff, ← not_lt, ← not_lt, hlt, hgt, not_lt, not_lt, ← le_antisymm_iff]

/-- **Numbers go on in the order of the digits that follow**, if these are as many for both. -/
theorem ofDigitChars_lt_iff {cs ds : List Char} (hcs : ∀ c ∈ cs, c.isDigit = true)
    (hds : ∀ d ∈ ds, d.isDigit = true) (h : cs.length = ds.length) (m n : Nat) :
    Nat.ofDigitChars 10 cs m < Nat.ofDigitChars 10 ds n ↔ m < n ∨ m = n ∧ cs < ds := by
  induction cs generalizing ds m n with
  | nil =>
    obtain rfl : ds = [] := by simpa using h.symm
    simp
  | cons c cs ih =>
    cases ds with
    | nil => simp at h
    | cons d ds =>
      have hc : 48 ≤ c.toNat ∧ c.toNat ≤ 57 :=
        Char.isDigit_iff_toNat.mp (hcs c List.mem_cons_self)
      have hd : 48 ≤ d.toNat ∧ d.toNat ≤ 57 :=
        Char.isDigit_iff_toNat.mp (hds d List.mem_cons_self)
      have hcode : c < d ↔ c.toNat < d.toNat := Char.lt_def.trans UInt32.lt_iff_toNat_lt
      have hlt : 10 * m + (c.toNat - 48) < 10 * n + (d.toNat - 48) ↔ m < n ∨ m = n ∧ c < d := by
        rw [hcode]
        omega
      have heq : 10 * m + (c.toNat - 48) = 10 * n + (d.toNat - 48) ↔ m = n ∧ c = d := by
        rw [← Char.toNat_inj]
        omega
      rw [Nat.ofDigitChars_cons, Nat.ofDigitChars_cons,
        ih (fun c hc => hcs c (List.mem_cons_of_mem _ hc))
          (fun d hd => hds d (List.mem_cons_of_mem _ hd)) (by simpa using h),
        List.cons_lt_cons_iff]
      show 10 * m + (c.toNat - 48) < 10 * n + (d.toNat - 48) ∨
        10 * m + (c.toNat - 48) = 10 * n + (d.toNat - 48) ∧ cs < ds ↔ _
      rw [hlt, heq, and_assoc, or_assoc, ← and_or_left]

/-- A number below the bound for its width is written in that width. -/
theorem length_zeroPadded {width n : Nat} (hwidth : 0 < width) (h : n < 10 ^ width) :
    (zeroPadded width n).length = width := by
  have hle := (Nat.length_toDigits_le_iff (by decide) hwidth).mpr h
  simp only [zeroPadded, List.length_append, List.length_replicate]
  omega

/-- **Numbers of the same width are in the order of their texts.** -/
theorem zeroPadded_lt_iff {width m n : Nat} (hwidth : 0 < width) (hm : m < 10 ^ width)
    (hn : n < 10 ^ width) : zeroPadded width m < zeroPadded width n ↔ m < n := by
  have hdigits (n : Nat) : ∀ c ∈ zeroPadded width n, c.isDigit = true :=
    List.all_eq_true.mp (Bool.and_eq_true_iff.mp (allDigits_zeroPadded width n)).2
  have hvalue : numeralValue (zeroPadded width m) < numeralValue (zeroPadded width n) ↔ _ :=
    ofDigitChars_lt_iff (hdigits m) (hdigits n)
      ((length_zeroPadded hwidth hm).trans (length_zeroPadded hwidth hn).symm) 0 0
  rw [numeralValue_zeroPadded, numeralValue_zeroPadded] at hvalue
  simpa using hvalue.symm

/-! ## Patterns in order -/

namespace Field

/-- **The number that a field shows.** A character that stands for itself shows always the same. -/
def number (t : Instant) : Field → Int
  | year => t.date.year
  | month => t.date.month
  | day => t.date.day
  | hour => t.hour
  | minute => t.minute
  | second => t.shownSecond
  | literal _ => 0

/-- The width of a field: four for a year that is written with four digits. -/
def width : Field → Nat
  | year => 4
  | literal _ => 1
  | _ => 2

/-- **Whether a field keeps its width**, which all do but a year with a sign. -/
def KeepsWidth (t : Instant) (f : Field) : Prop := f = year → IsFourDigitYear t.date.year

variable {s t : Instant} {f : Field}

/-- **A field that keeps its width is a character of its own or a number of that width.** -/
theorem KeepsWidth.cases (h : f.KeepsWidth t) :
    (∃ c, f = literal c) ∨
      ∃ n : Nat, f.chars t = zeroPadded f.width n ∧ n < 10 ^ f.width ∧ f.number t = n := by
  have hmonth : 1 ≤ t.date.month ∧ t.date.month - 1 < 12 := t.date.month_mem
  have hday := Nat.le_trans t.date.day_le (monthLength_le _ _)
  have hhour := t.hour_lt
  have hminute := t.minute_lt
  have hsecond := t.shownSecond_le
  cases f with
  | year =>
    have hyear := h rfl
    refine .inr ⟨t.date.year.toNat, yearChars_of_isFourDigitYear hyear, ?_, ?_⟩
    · show t.date.year.toNat < 10000
      have := hyear.2
      omega
    · exact (Int.toNat_of_nonneg hyear.1).symm
  | month => exact .inr ⟨_, rfl, show t.date.month < 100 by omega, rfl⟩
  | day => exact .inr ⟨_, rfl, show t.date.day < 100 by omega, rfl⟩
  | hour => exact .inr ⟨_, rfl, show t.hour < 100 by omega, rfl⟩
  | minute => exact .inr ⟨_, rfl, show t.minute < 100 by omega, rfl⟩
  | second => exact .inr ⟨_, rfl, show t.shownSecond < 100 by omega, rfl⟩
  | literal c => exact .inl ⟨c, rfl⟩

/-- No field is empty. -/
theorem width_pos (f : Field) : 0 < f.width := by cases f <;> exact Nat.succ_pos _

theorem KeepsWidth.length_chars (h : f.KeepsWidth t) : (f.chars t).length = f.width := by
  rcases h.cases with ⟨c, rfl⟩ | ⟨n, hn, hlt, -⟩
  · rfl
  · rw [hn, length_zeroPadded f.width_pos hlt]

/-- **A field shows numbers in the order of its texts.** -/
theorem KeepsWidth.chars_lt_iff (hs : f.KeepsWidth s) (ht : f.KeepsWidth t) :
    f.chars s < f.chars t ↔ f.number s < f.number t := by
  rcases hs.cases with ⟨c, rfl⟩ | ⟨m, hm, hmlt, hmnum⟩
  · simp [chars, number]
  · rcases ht.cases with ⟨c, rfl⟩ | ⟨n, hn, hnlt, hnnum⟩
    · simp [chars, number]
    · rw [hm, hn, hmnum, hnnum, zeroPadded_lt_iff f.width_pos hmlt hnlt, Int.ofNat_lt]

end Field

namespace Pattern

variable {p rest : Pattern} {s t : Instant}

/-- **The numbers that a pattern shows** of an instant. -/
def numbers (p : Pattern) (t : Instant) : List Int := p.map (Field.number t)

/-- **A pattern shows numbers in the order of its texts**, the first field that differs deciding, if
its fields keep their widths. -/
theorem chars_lt_iff (hs : ∀ f ∈ p, f.KeepsWidth s) (ht : ∀ f ∈ p, f.KeepsWidth t) :
    p.chars s < p.chars t ↔ p.numbers s < p.numbers t := by
  induction p with
  | nil => simp [chars, numbers]
  | cons f p ih =>
    have hfs := hs f List.mem_cons_self
    have hft := ht f List.mem_cons_self
    have hfield := Field.KeepsWidth.chars_lt_iff hfs hft
    show f.chars s ++ chars p s < f.chars t ++ chars p t ↔
      f.number s :: numbers p s < f.number t :: numbers p t
    rw [append_lt_append_iff (hfs.length_chars.trans hft.length_chars.symm),
      List.cons_lt_cons_iff, hfield,
      eq_iff_of_lt_iff hfield (Field.KeepsWidth.chars_lt_iff hft hfs),
      ih (fun g hg => hs g (List.mem_cons_of_mem f hg))
        (fun g hg => ht g (List.mem_cons_of_mem f hg))]

/-- **A pattern shows the same numbers where its texts are the same**, if its fields keep their
widths. -/
theorem chars_eq_iff (hs : ∀ f ∈ p, f.KeepsWidth s) (ht : ∀ f ∈ p, f.KeepsWidth t) :
    p.chars s = p.chars t ↔ p.numbers s = p.numbers t :=
  eq_iff_of_lt_iff (chars_lt_iff hs ht) (chars_lt_iff ht hs)

/-- In a year of four digits all fields keep their widths. -/
theorem keepsWidth_of_isFourDigitYear (h : IsFourDigitYear t.date.year) (p : Pattern) :
    ∀ f ∈ p, f.KeepsWidth t :=
  fun _ _ _ => h

end Pattern

/-! ## The calendar in order -/

/-- **Whether a clock shows an earlier time** at one instant than at another: an earlier minute, or
in the same minute a smaller second. -/
def Instant.ShownBefore (s t : Instant) : Prop :=
  CalendarUnit.minute.ordinal s < CalendarUnit.minute.ordinal t ∨
    CalendarUnit.minute.ordinal s = CalendarUnit.minute.ordinal t ∧ s.shownSecond < t.shownSecond

/-- **Away from leap seconds a clock shows the order of the seconds.** -/
theorem Instant.shownBefore_iff_of_not_isLeap {s t : Instant} (hs : ¬s.IsLeap) (ht : ¬t.IsLeap) :
    s.ShownBefore t ↔ s.wholeSecond < t.wholeSecond := by
  have := s.second_eq
  have := t.second_eq
  rw [wholeSecond_lt_iff]
  unfold ShownBefore
  rw [shownSecond_of_not_isLeap hs, shownSecond_of_not_isLeap ht]
  show s.seconds / 60 < t.seconds / 60 ∨ s.seconds / 60 = t.seconds / 60 ∧ _ ↔ _
  omega

/-- **No later instant is shown as an earlier time.** -/
theorem Instant.not_shownBefore_of_le {s t : Instant} (h : s ≤ t) : ¬t.ShownBefore s := by
  have := s.second_eq
  have := t.second_eq
  have := s.nanos_lt
  rw [le_def] at h
  unfold ShownBefore shownSecond
  show ¬(t.seconds / 60 < s.seconds / 60 ∨ t.seconds / 60 = s.seconds / 60 ∧ _)
  omega

namespace Pattern

variable {s t : Instant}

/-- **What begins with the date is in the order of the days**, and for one day in the order of what
follows the date. -/
theorem numbers_isoDate_append_lt_iff (rest : Pattern) :
    numbers (isoDate ++ rest) s < numbers (isoDate ++ rest) t ↔
      s.date.dayNumber < t.date.dayNumber ∨
        s.date.dayNumber = t.date.dayNumber ∧ rest.numbers s < rest.numbers t := by
  have hdate : numbers isoDate s < numbers isoDate t ↔ s.date.dayNumber < t.date.dayNumber := by
    rw [Date.dayNumber_lt_iff]
    simp only [numbers, isoDate, Field.number, List.map_cons, List.map_nil, List.cons_lt_cons_iff,
      lt_self_iff_false, true_and, and_false, false_or, or_false]
    omega
  have hsame : numbers isoDate s = numbers isoDate t ↔ s.date.dayNumber = t.date.dayNumber := by
    rw [Date.dayNumber_inj, Date.ext_iff]
    simp only [numbers, isoDate, Field.number, List.map_cons, List.map_nil, List.cons.injEq,
      true_and, and_true]
    omega
  have happend (t : Instant) : numbers (isoDate ++ rest) t = numbers isoDate t ++ rest.numbers t :=
    List.map_append
  have hlength : (numbers isoDate s).length = (numbers isoDate t).length := rfl
  rw [happend, happend, append_lt_append_iff hlength, hdate, hsame]

/-- **Timestamps show numbers in the order of the times that clocks show.** -/
theorem numbers_timestamp_lt_iff :
    timestamp.numbers s < timestamp.numbers t ↔ s.ShownBefore t := by
  have hclock : numbers (.literal ' ' :: clock) s < numbers (.literal ' ' :: clock) t ↔
      s.hour < t.hour ∨ s.hour = t.hour ∧
        (s.minute < t.minute ∨ s.minute = t.minute ∧ s.shownSecond < t.shownSecond) := by
    simp only [numbers, clock, Field.number, List.map_cons, List.map_nil, List.cons_lt_cons_iff,
      lt_self_iff_false, true_and, and_false, false_or, or_false]
    omega
  have := s.minute_lt
  have := t.minute_lt
  have := s.hour_lt
  have := t.hour_lt
  have := s.second_lt
  have := t.second_lt
  unfold timestamp
  rw [numbers_isoDate_append_lt_iff, hclock]
  show _ ↔ s.seconds / 60 < t.seconds / 60 ∨ s.seconds / 60 = t.seconds / 60 ∧ _
  rw [s.seconds_eq, t.seconds_eq]
  omega

end Pattern

namespace CalendarUnit

variable {s t : Instant}

/-- **Labels show numbers in the order of the units.** -/
theorem numbers_labelPattern_lt_iff (u : CalendarUnit) :
    u.labelPattern.numbers s < u.labelPattern.numbers t ↔ u.ordinal s < u.ordinal t := by
  have := s.minute_lt
  have := t.minute_lt
  have := s.hour_lt
  have := t.hour_lt
  have := s.second_lt
  have := t.second_lt
  unfold ordinal
  rw [s.seconds_eq, t.seconds_eq]
  cases u with
  | day =>
    refine (Pattern.numbers_isoDate_append_lt_iff []).trans ?_
    show _ ∨ _ ∧ [] < [] ↔ _ / 86400 < _ / 86400
    rw [iff_false_intro (List.not_lt_nil []), and_false, or_false]
    omega
  | hour =>
    refine (Pattern.numbers_isoDate_append_lt_iff _).trans ?_
    simp only [Pattern.numbers, Field.number, List.map_cons, List.map_nil, List.cons_lt_cons_iff,
      lt_self_iff_false, true_and, and_false, false_or, or_false]
    show _ ↔ _ / 3600 < _ / 3600
    omega
  | minute =>
    refine (Pattern.numbers_isoDate_append_lt_iff _).trans ?_
    simp only [Pattern.numbers, Field.number, List.map_cons, List.map_nil, List.cons_lt_cons_iff,
      lt_self_iff_false, true_and, and_false, false_or, or_false]
    show _ ↔ _ / 60 < _ / 60
    omega

end CalendarUnit

/-! ## Texts in order -/

section FourDigitYears

variable {s t : Instant}

/-- **Labels are in the order of the units**, in the years that have four digits. -/
theorem label_lt_iff (u : CalendarUnit) (hs : IsFourDigitYear s.date.year)
    (ht : IsFourDigitYear t.date.year) : u.label s < u.label t ↔ u.ordinal s < u.ordinal t := by
  rw [← u.numbers_labelPattern_lt_iff, ← Pattern.chars_lt_iff
    (Pattern.keepsWidth_of_isFourDigitYear hs _) (Pattern.keepsWidth_of_isFourDigitYear ht _)]
  unfold CalendarUnit.label Pattern.format
  rw [String.lt_iff_toList_lt, String.toList_ofList, String.toList_ofList]

/-- **Timestamps are in the order of the times that clocks show**, in the years that have four
digits. -/
theorem timestamp_lt_iff (hs : IsFourDigitYear s.date.year) (ht : IsFourDigitYear t.date.year) :
    Pattern.timestamp.format s < Pattern.timestamp.format t ↔ s.ShownBefore t := by
  rw [← Pattern.numbers_timestamp_lt_iff, ← Pattern.chars_lt_iff
    (Pattern.keepsWidth_of_isFourDigitYear hs _) (Pattern.keepsWidth_of_isFourDigitYear ht _)]
  unfold Pattern.format
  rw [String.lt_iff_toList_lt, String.toList_ofList, String.toList_ofList]

end FourDigitYears

/-! ## Sorting -/

/-- **There is one way to sort a list** by an order that tells all things apart. -/
theorem mergeSort_eq_of_perm {α : Type} {le : α → α → Bool} {l sorted : List α}
    (trans : ∀ a b c, le a b → le b c → le a c) (total : ∀ a b, le a b || le b a)
    (antisymm : ∀ a b, le a b → le b a → a = b) (hperm : sorted.Perm l)
    (hsorted : sorted.Pairwise fun a b => le a b) : l.mergeSort le = sorted :=
  List.Perm.eq_of_pairwise (fun a b _ _ => antisymm a b) (List.pairwise_mergeSort trans total l)
    hsorted ((List.mergeSort_perm l le).trans hperm.symm)

namespace Instant

/-- The order of instants is transitive. -/
protected theorem le_trans (a b c : Instant) (hab : a ≤ b) (hbc : b ≤ c) : a ≤ c := by
  rw [le_def] at *
  omega

/-- Of two instants one is not after the other. -/
protected theorem le_total (a b : Instant) : a ≤ b ∨ b ≤ a := by
  rw [le_def, le_def]
  omega

/-- Instants are the same if neither is after the other. -/
protected theorem le_antisymm (a b : Instant) (hab : a ≤ b) (hba : b ≤ a) : a = b := by
  rw [le_def] at *
  exact ext_iff.mpr (by omega)

end Instant

/-- **Sorting texts is sorting instants**, if no later instant has the smaller text. -/
theorem mergeSort_map_eq {ts : List Instant} {text : Instant → String}
    (h : ∀ s ∈ ts, ∀ t ∈ ts, s ≤ t → ¬text t < text s) :
    (ts.map text).mergeSort = ts.mergeSort.map text := by
  have htimes : ts.mergeSort.Pairwise fun s t => decide (s ≤ t) = true :=
    List.pairwise_mergeSort (by simpa using Instant.le_trans) (by simpa using Instant.le_total) ts
  refine mergeSort_eq_of_perm (by simpa using fun a b c => le_trans) (by simpa using le_total)
    (by simpa using fun a b => le_antisymm) ((List.mergeSort_perm ts _).map text) ?_
  rw [List.pairwise_map]
  refine htimes.imp_of_mem fun hs ht hle => decide_eq_true (not_lt.mp ?_)
  exact h _ (List.mem_mergeSort.mp hs) _ (List.mem_mergeSort.mp ht) (decide_eq_true_iff.mp hle)

/-- **Texts are in the order of time**, in the years that have four digits. The label of one instant
precedes that of another exactly when its unit does. Its timestamp precedes the other exactly when
it is shown as an earlier time, and away from leap seconds that is when its whole second is earlier.
So to sort the labels or the timestamps of instants as texts is to sort the instants. -/
theorem texts_follow_time (u : CalendarUnit) :
    (∀ s t, IsFourDigitYear s.date.year → IsFourDigitYear t.date.year →
      (u.label s < u.label t ↔ u.ordinal s < u.ordinal t) ∧
        (Pattern.timestamp.format s < Pattern.timestamp.format t ↔ s.ShownBefore t) ∧
        (¬s.IsLeap → ¬t.IsLeap →
          (Pattern.timestamp.format s < Pattern.timestamp.format t ↔
            s.wholeSecond < t.wholeSecond))) ∧
    ∀ ts : List Instant, (∀ t ∈ ts, IsFourDigitYear t.date.year) →
      (ts.map u.label).mergeSort = ts.mergeSort.map u.label ∧
        (ts.map Pattern.timestamp.format).mergeSort =
          ts.mergeSort.map Pattern.timestamp.format := by
  refine ⟨fun s t hs ht => ⟨label_lt_iff u hs ht, timestamp_lt_iff hs ht, fun hsleap htleap => ?_⟩,
    fun ts hts => ⟨?_, ?_⟩⟩
  · rw [timestamp_lt_iff hs ht, Instant.shownBefore_iff_of_not_isLeap hsleap htleap]
  · refine mergeSort_map_eq fun s hs t ht hle => ?_
    rw [label_lt_iff u (hts t ht) (hts s hs), not_lt]
    exact u.ordinal_le_of_le hle
  · refine mergeSort_map_eq fun s hs t ht hle => ?_
    rw [timestamp_lt_iff (hts t ht) (hts s hs)]
    exact Instant.not_shownBefore_of_le hle

/-- Labels and timestamps from the leap day of the year 0 over the last second of 1969 to the end of
the year 9999. Two instants of that second have one timestamp, and neither precedes the other. -/
theorem texts_follow_time_through_1970 :
    let leapDay : Instant := ⟨-62162035201, 999999999, by decide, by decide, by decide⟩
    let before : Instant := ⟨-1, 500000000, by decide, by decide, by decide⟩
    let later : Instant := ⟨-1, 999999999, by decide, by decide, by decide⟩
    let epoch : Instant := ⟨0, 0, by decide, by decide, by decide⟩
    let last : Instant := ⟨253402300799, 999999999, by decide, by decide, by decide⟩
    let ts : List Instant := [epoch, last, leapDay, before]
    (∀ t ∈ ts, IsFourDigitYear t.date.year) ∧ IsFourDigitYear later.date.year ∧
      CalendarUnit.minute.label leapDay < CalendarUnit.minute.label before ∧
      (¬before.IsLeap ∧ ¬later.IsLeap) ∧
      ¬Pattern.timestamp.format before < Pattern.timestamp.format later ∧
      (ts.map CalendarUnit.minute.label).mergeSort =
        ["0000-02-29T23:59Z", "1969-12-31T23:59Z", "1970-01-01T00:00Z", "9999-12-31T23:59Z"] ∧
      (ts.map Pattern.timestamp.format).mergeSort =
        ["0000-02-29 23:59:59", "1969-12-31 23:59:59", "1970-01-01 00:00:00",
          "9999-12-31 23:59:59"] := by
  intro leapDay before later epoch last ts
  have hyears : ∀ t ∈ ts, IsFourDigitYear t.date.year := by decide +kernel
  have hlater : IsFourDigitYear later.date.year := by decide +kernel
  have hsort : ts.mergeSort = [leapDay, before, epoch, last] :=
    mergeSort_eq_of_perm (by simpa using Instant.le_trans) (by simpa using Instant.le_total)
      (by simpa using Instant.le_antisymm) (by decide) (by decide)
  obtain ⟨horder, hsorted⟩ := texts_follow_time .minute
  obtain ⟨hlabels, htimestamps⟩ := hsorted ts hyears
  rw [hsort] at hlabels htimestamps
  have hleapDay := hyears leapDay (by decide)
  have hbefore := hyears before (by decide)
  have hleap : ¬before.IsLeap ∧ ¬later.IsLeap := by decide
  refine ⟨hyears, hlater, (horder leapDay before hleapDay hbefore).1.mpr (by decide), hleap,
    ((horder before later hbefore hlater).2.2 hleap.1 hleap.2).not.mpr (by decide), ?_, ?_⟩
  · rw [hlabels]
    decide +kernel
  · rw [htimestamps]
    decide +kernel

/-- **In a leap second timestamps do not follow the whole seconds.** Half a second before the leap
second at the end of 2016 and in it the whole second is the same, and the timestamps are not. -/
theorem texts_leave_seconds_in_leap_second :
    let before : Instant := ⟨1483228799, 500000000, by decide, by decide, by decide⟩
    let leap : Instant := ⟨1483228799, 1300000000, by decide, by decide, by decide⟩
    IsFourDigitYear before.date.year ∧ IsFourDigitYear leap.date.year ∧
      Pattern.timestamp.format before = "2016-12-31 23:59:59" ∧
      Pattern.timestamp.format leap = "2016-12-31 23:59:60" ∧
      ¬(Pattern.timestamp.format before < Pattern.timestamp.format leap ↔
        before.wholeSecond < leap.wholeSecond) := by
  intro before leap
  have hbefore : IsFourDigitYear before.date.year := by decide +kernel
  have hleap : IsFourDigitYear leap.date.year := by decide +kernel
  refine ⟨hbefore, hleap, by decide +kernel, by decide +kernel, fun h => ?_⟩
  have hshown : before.ShownBefore leap := .inr (by decide)
  exact absurd (h.mp ((timestamp_lt_iff hbefore hleap).mpr hshown)) (by decide)

end ChartData
