import ChartData.Proofs.TextOrder

/-!
# The labels of units

Instants have the same label exactly when they fall in the same unit, in all years that there are
(`CalendarUnit.labels_tell_units_apart`). Labels that are told apart show different numbers, and
numbers tell units apart as they put them in order (`numbers_labelPattern_lt_iff`); what is left to
say is that labels that show different numbers are different texts.

For fields of a fixed width that is known (`Pattern.chars_eq_iff`), and all fields have one but the
year, which may be longer and may have a sign. But a label begins with the year, and a dash follows
it. So the year can be read off the text (`readYear_yearChars`): the sign, if there is one, is in
front of the first digit, and the digits end at the dash. Nothing is confused where the form of the
years changes.
-/

namespace ChartData

/-! ## Years read off a text -/

/-- **The year that a text begins with**, and what follows it: digits up to the first character that
is none, with or without a sign in front. -/
def readYear (cs : List Char) : Int × List Char :=
  let digits := cs.dropWhile (!·.isDigit)
  let magnitude := numeralValue (digits.takeWhile Char.isDigit)
  (if cs.head? = some '-' then -magnitude else magnitude, digits.dropWhile Char.isDigit)

/-- **A numeral in front of a dash is read off**, with or without a sign in front of it. -/
theorem readYear_signed (sign : List Char) {digits : List Char}
    (hsign : ∀ c ∈ sign, c.isDigit = false) (hdigits : allDigits digits = true) (cs : List Char) :
    readYear (sign ++ (digits ++ '-' :: cs)) =
      (if sign.head? = some '-' then -(numeralValue digits : Int) else numeralValue digits,
        '-' :: cs) := by
  have hall : ∀ d ∈ digits, d.isDigit = true :=
    List.all_eq_true.mp (Bool.and_eq_true_iff.mp hdigits).2
  obtain ⟨d, rest, rfl⟩ := List.exists_cons_of_ne_nil (ne_nil_of_allDigits hdigits)
  have hd : d.isDigit = true := hall d List.mem_cons_self
  have hfront : (sign ++ (d :: rest ++ '-' :: cs)).dropWhile (!·.isDigit) =
      d :: rest ++ '-' :: cs := by
    rw [List.dropWhile_append_of_pos (by simpa using hsign)]
    exact List.dropWhile_cons_of_neg (by simp [hd])
  have hhead : (sign ++ (d :: rest ++ '-' :: cs)).head? = some '-' ↔ sign.head? = some '-' := by
    cases sign with
    | nil =>
      have hminus : d ≠ '-' := by
        rintro rfl
        cases hd
      simp [hminus]
    | cons c sign => exact Iff.rfl
  have hend : ('-' :: cs).takeWhile Char.isDigit = [] := rfl
  unfold readYear
  dsimp only
  rw [hfront, List.takeWhile_append_of_pos hall, List.dropWhile_append_of_pos hall, hend,
    List.append_nil]
  simp only [hhead]
  rfl

/-- **A year in front of a dash is read off.** -/
theorem readYear_yearChars (year : Int) (cs : List Char) :
    readYear (yearChars year ++ '-' :: cs) = (year, '-' :: cs) := by
  have hdigits := allDigits_zeroPadded 4
  unfold yearChars
  split
  · next hyear =>
    have hread := readYear_signed [] nofun (hdigits year.toNat) cs
    rw [numeralValue_zeroPadded, Int.toNat_of_nonneg hyear.1] at hread
    exact hread
  · split
    · next hneg =>
      have hread := readYear_signed ['-'] (by simp) (hdigits year.natAbs) cs
      rw [numeralValue_zeroPadded, ← Int.eq_neg_natAbs_of_nonpos (Int.le_of_lt hneg)] at hread
      exact hread
    · next hneg =>
      have hread := readYear_signed ['+'] (by simp) (hdigits year.natAbs) cs
      rw [numeralValue_zeroPadded, Int.natAbs_of_nonneg (Int.not_lt.mp hneg)] at hread
      exact hread

/-! ## Labels -/

namespace Pattern

variable {rest : Pattern} {s t : Instant}

/-- **What begins with the year and a dash** shows the same numbers where its texts are the same. -/
theorem chars_eq_iff_of_year (hrest : .year ∉ rest) :
    chars (.year :: .literal '-' :: rest) s = chars (.year :: .literal '-' :: rest) t ↔
      numbers (.year :: .literal '-' :: rest) s = numbers (.year :: .literal '-' :: rest) t := by
  have hkeeps (t : Instant) : ∀ f ∈ rest, f.KeepsWidth t := by
    rintro f hf rfl
    exact absurd hf hrest
  have hread (t : Instant) : readYear (chars (.year :: .literal '-' :: rest) t) =
      (t.date.year, '-' :: rest.chars t) := readYear_yearChars _ _
  have hchars : chars (.year :: .literal '-' :: rest) s = chars (.year :: .literal '-' :: rest) t ↔
      s.date.year = t.date.year ∧ rest.chars s = rest.chars t := by
    constructor
    · intro h
      have := congrArg readYear h
      rw [hread, hread] at this
      simpa using this
    · rintro ⟨hyear, hchars⟩
      show yearChars s.date.year ++ '-' :: rest.chars s =
        yearChars t.date.year ++ '-' :: rest.chars t
      rw [hyear, hchars]
  rw [hchars, chars_eq_iff (hkeeps s) (hkeeps t)]
  simp [numbers, Field.number]

end Pattern

namespace CalendarUnit

/-- A label begins with the year and a dash, and there is no other year in it. -/
theorem exists_labelPattern_eq (u : CalendarUnit) :
    ∃ rest, .year ∉ rest ∧ u.labelPattern = .year :: .literal '-' :: rest := by
  cases u <;> exact ⟨_, by decide, rfl⟩

/-- **Labels are the same for the instants of a unit** and for no others. -/
theorem label_eq_iff (u : CalendarUnit) {s t : Instant} :
    u.label s = u.label t ↔ u.ordinal s = u.ordinal t := by
  obtain ⟨rest, hrest, hpattern⟩ := u.exists_labelPattern_eq
  have hnumbers : u.labelPattern.numbers s = u.labelPattern.numbers t ↔ u.ordinal s = u.ordinal t :=
    eq_iff_of_lt_iff u.numbers_labelPattern_lt_iff u.numbers_labelPattern_lt_iff
  rw [← hnumbers]
  unfold label Pattern.format
  rw [String.ofList_inj, hpattern, Pattern.chars_eq_iff_of_year hrest]

/-- **Labels tell units apart**, in all years that are representable: two instants have the same
label exactly when they fall in the same unit. So the units of a range have labels of their own, no
two of them the same. -/
theorem labels_tell_units_apart (u : CalendarUnit) :
    (∀ s t, u.label s = u.label t ↔ u.ordinal s = u.ordinal t) ∧
      ∀ first last, ((u.units first last).map u.label).Nodup := by
  refine ⟨fun s t => u.label_eq_iff, fun first last => ?_⟩
  have hordinals := u.nodup_map_ordinal_units first last
  unfold List.Nodup at hordinals ⊢
  rw [List.pairwise_map] at hordinals ⊢
  exact hordinals.imp fun hne => mt u.label_eq_iff.mp hne

/-- The days on either side of where years begin to have a sign, after 9999 and before 0. -/
example :
    [(⟨-62167219201, 0, by decide, by decide, by decide⟩ : Instant),
      ⟨-62167219200, 0, by decide, by decide, by decide⟩,
      ⟨253402300799, 0, by decide, by decide, by decide⟩,
      ⟨253402300800, 0, by decide, by decide, by decide⟩].map day.label =
        ["-0001-12-31", "0000-01-01", "9999-12-31", "+10000-01-01"] := by decide +kernel

end CalendarUnit

end ChartData
