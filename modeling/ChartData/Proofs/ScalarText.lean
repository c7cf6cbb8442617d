import ChartData.Proofs.NumberText
import ChartData.Proofs.Rounding
import ChartData.Toml.Scalar

/-!
# Words of a settings file read back

Truth values, whole numbers and floating-point numbers are written in a settings file as words
without quotes, and each word stands for what it was written for (`Toml.ofWord?_toDigits`,
`Toml.ofWord?_chars`). A word might be taken for a date or a time, or for a number in another base;
the words that are written here are not, since they have no colon, no dash but in front, and no
letter.

A floating-point number is written out with its shortest digits and a point. What is written may be
another decimal number than the shortest one, as whole numbers get their zeros and a fraction; it is
of the same value, and so is read as the same number (`Finite64.ofScaled_writtenOut`).
-/

namespace ChartData

/-! ## The value of a number that is written out -/

namespace NumberLayout

/-- **What digits with a point among them are worth**: the digits in their unit, or with the zeros
of a whole number and one zero after the point. -/
theorem value_withPoint (digits : List Char) (unit : Int) :
    (numeralValue (wholeDigits digits (unit + digits.length) ++
          fractionDigits digits (unit + digits.length)) = numeralValue digits ∧
        ((fractionDigits digits (unit + digits.length)).length : Int) = -unit) ∨
      0 ≤ unit ∧
        numeralValue (wholeDigits digits (unit + digits.length) ++
            fractionDigits digits (unit + digits.length)) =
          numeralValue digits * Nat.pow 10 unit.toNat * 10 ∧
        (fractionDigits digits (unit + digits.length)).length = 1 := by
  unfold wholeDigits fractionDigits numeralValue
  by_cases hpoint : unit + digits.length ≤ 0
  · refine .inl ⟨?_, ?_⟩
    · rw [if_pos hpoint, if_pos hpoint, Nat.ofDigitChars_append, Nat.ofDigitChars_append]
      have hzero : Nat.ofDigitChars 10 ['0'] 0 = 0 := rfl
      rw [hzero, Nat.ofDigitChars_replicate_zero, Nat.mul_zero]
    · rw [if_pos hpoint, List.length_append, List.length_replicate]
      omega
  · rw [if_neg hpoint, if_neg hpoint]
    by_cases hunit : 0 ≤ unit
    · have hlength : digits.length ≤ (unit + digits.length).toNat := by omega
      have hzeros : (unit + digits.length).toNat - digits.length = unit.toNat := by omega
      refine .inr ⟨hunit, ?_, ?_⟩
      · rw [if_pos hlength, if_pos hlength, Nat.ofDigitChars_append, Nat.ofDigitChars_append,
          hzeros, Nat.ofDigitChars_replicate_zero, Nat.ofDigitChars_cons, Nat.ofDigitChars_nil,
          Nat.sub_self, Nat.add_zero, Nat.mul_comm 10, Nat.mul_comm (10 ^ _), Nat.pow_eq]
      · rw [if_pos hlength]
        rfl
    · have hlength : ¬digits.length ≤ (unit + digits.length).toNat := by omega
      refine .inl ⟨?_, ?_⟩
      · rw [if_neg hlength, if_neg hlength, List.take_append_drop]
      · rw [if_neg hlength, List.length_drop]
        omega

/-- Behind the first digit, the digits before the point start with it. -/
theorem exists_wholeDigits_cons (c : Char) (cs : List Char) {point : Int} (h : 0 < point) :
    ∃ rest, wholeDigits (c :: cs) point = c :: rest := by
  obtain ⟨n, hn⟩ : ∃ n, point.toNat = n + 1 := ⟨point.toNat - 1, by omega⟩
  unfold wholeDigits
  rw [if_neg (by omega), hn]
  split
  · exact ⟨_, rfl⟩
  · exact ⟨_, rfl⟩

/-- **Digits before a point have no idle zero in front**: a whole number is not zero unless it is
written with one digit before the point. -/
theorem wholeIsPlain_wholeDigits {m : Numeral} {n : Nat} {point : Int}
    (h : m.whole = wholeDigits (Nat.toDigits 10 n) point) (hn : n = 0 → point = 1) :
    m.wholeIsPlain = true := by
  by_cases hzero : n = 0
  · unfold Numeral.wholeIsPlain
    rw [h, hn hzero, hzero]
    rfl
  · have hhead := head?_toDigits_ne (Nat.pos_of_ne_zero hzero)
    have hne : Nat.toDigits 10 n ≠ [] := Nat.toDigits_ne_nil
    obtain ⟨c, cs, hcs⟩ := List.exists_cons_of_ne_nil hne
    rw [hcs] at h hhead
    by_cases hpoint : point ≤ 0
    · unfold wholeDigits at h
      unfold Numeral.wholeIsPlain
      rw [h, if_pos hpoint]
      rfl
    · obtain ⟨rest, hrest⟩ := exists_wholeDigits_cons c cs (Int.not_le.1 hpoint)
      refine Numeral.wholeIsPlain_of_head?_ne ?_ ?_ <;> rw [h, hrest]
      · exact List.cons_ne_nil _ _
      · exact hhead

end NumberLayout

namespace Finite64

/-- The point of a number that is written out. -/
theorem leadingExponent_add_one (x : Finite64) :
    x.leadingExponent + 1 = x.shortest.exponent + x.shortestDigits.length := by
  unfold leadingExponent
  omega

/-- Only zero has the digits of zero, and it is written with a digit before the point. -/
theorem leadingExponent_of_digits_eq_zero {x : Finite64} (h : x.shortest.digits = 0) :
    x.leadingExponent + 1 = 1 := by
  have hread := x.ofScaled_shortest_eq
  unfold Binary64.ofScaled at hread
  rw [if_pos h] at hread
  have hx : (⟨x.negative, 0, by decide⟩ : Finite64) = x := Binary64.finite.inj hread
  have hzero : x.isZero = true := by
    rw [← hx]
    rfl
  unfold leadingExponent shortestDigits shortest
  rw [if_pos hzero]
  rfl

/-- The digits before the point, where a number is written out. -/
def wholePart (x : Finite64) : List Char :=
  NumberLayout.wholeDigits x.shortestDigits (x.leadingExponent + 1)

/-- The digits after the point, where a number is written out. -/
def fractionPart (x : Finite64) : List Char :=
  NumberLayout.fractionDigits x.shortestDigits (x.leadingExponent + 1)

theorem isDigit_of_mem_wholePart (x : Finite64) : ∀ c ∈ x.wholePart, c.isDigit = true :=
  NumberLayout.isDigit_of_mem_wholeDigits isDigit_of_mem_shortestDigits

theorem isDigit_of_mem_fractionPart (x : Finite64) : ∀ c ∈ x.fractionPart, c.isDigit = true :=
  NumberLayout.isDigit_of_mem_fractionDigits isDigit_of_mem_shortestDigits

theorem wholePart_ne_nil (x : Finite64) : x.wholePart ≠ [] :=
  NumberLayout.wholeDigits_ne_nil Nat.toDigits_ne_nil

theorem fractionPart_ne_nil (x : Finite64) : x.fractionPart ≠ [] :=
  NumberLayout.fractionDigits_ne_nil Nat.toDigits_ne_nil

/-- **The text of a number that is written out.** -/
theorem chars_of_positional {layout : NumberLayout} {x : Finite64}
    (h : layout.positional x.leadingExponent = true) :
    x.chars layout = signChars x.negative ++ (x.wholePart ++ '.' :: x.fractionPart) := by
  rw [chars_eq, magnitudeChars, if_pos h, NumberLayout.withPoint_eq]
  rfl

/-- The parts of a number that is written out. -/
def writtenOut (x : Finite64) : Numeral :=
  ⟨if x.negative then some '-' else none, x.wholePart, some x.fractionPart, none⟩

/-- A number that is written out has its parts. -/
theorem ofChars?_writtenOut (x : Finite64) :
    Numeral.ofChars? (signChars x.negative ++ (x.wholePart ++ '.' :: x.fractionPart)) =
      some x.writtenOut := by
  have hsign : signChars x.negative =
      (if x.negative then some '-' else none : Option Char).toList := by
    cases x.negative <;> rfl
  have hfraction : '.' :: x.fractionPart = Numeral.fractionChars (some x.fractionPart) := rfl
  rw [hsign, hfraction]
  refine Numeral.ofChars?_parts ?_ x.isDigit_of_mem_wholePart ?_
  · cases x.negative
    · exact .inl rfl
    · exact .inr rfl
  · intro ds hds
    cases hds
    exact x.isDigit_of_mem_fractionPart

theorem wholeIsPlain_writtenOut (x : Finite64) : x.writtenOut.wholeIsPlain = true :=
  NumberLayout.wholeIsPlain_wholeDigits rfl leadingExponent_of_digits_eq_zero

/-- **A number that is written out is read as the number.** -/
theorem ofScaled_writtenOut (x : Finite64) :
    Binary64.ofScaled x.writtenOut.isNegative x.writtenOut.scaled = .finite x := by
  have hread := x.ofScaled_shortest_eq
  have hnegative : x.writtenOut.isNegative = x.negative := by
    unfold Numeral.isNegative writtenOut
    cases x.negative <;> rfl
  have hscaled : x.writtenOut.scaled =
      ⟨numeralValue (x.wholePart ++ x.fractionPart), 0 - x.fractionPart.length⟩ := rfl
  have hdigits : numeralValue x.shortestDigits = x.shortest.digits := numeralValue_toDigits _
  rw [hnegative, hscaled]
  unfold wholePart fractionPart
  rw [leadingExponent_add_one]
  rcases NumberLayout.value_withPoint x.shortestDigits x.shortest.exponent with
    ⟨hvalue, hlength⟩ | ⟨hunit, hvalue, hlength⟩
  · rw [hvalue, hlength, hdigits, Int.zero_sub, Int.neg_neg]
    exact hread
  · obtain ⟨unit, hunit⟩ := Int.eq_ofNat_of_zero_le hunit
    rw [hvalue, hlength, hdigits]
    refine ofScaled_tenths ?_
    rw [hunit, Int.toNat_natCast, ← hunit]
    exact hread

end Finite64

/-! ## Words that are no dates and no times -/

namespace Toml

variable {cs : List Char}

/-- A text with a dash at most in front is no date. -/
theorem isDate_eq_false (h : '-' ∉ cs.drop 1) : isDate cs = false := by
  have hfields : (fieldsAt (· == '-') cs).length ≤ 2 := by
    cases cs with
    | nil => decide
    | cons c cs =>
      have hnone : ∀ d ∈ cs, (d == '-') = false := fun d hd =>
        beq_eq_false_iff_ne.2 fun heq => h (heq ▸ hd)
      unfold fieldsAt
      rw [fieldsAt_of_forall hnone]
      split <;> exact Nat.le_of_ble_eq_true rfl
  unfold isDate
  split
  · next heq =>
    rw [heq] at hfields
    exact absurd hfields (show ¬3 ≤ 2 by decide)
  · rfl

/-- A text without a colon is no time of day. -/
theorem isTime_eq_false (h : ':' ∉ cs) : isTime cs = false := by
  have hfields {ds : List Char} (hd : ':' ∉ ds) : fieldsAt (· == ':') ds = [ds] :=
    fieldsAt_of_forall fun d hmem => beq_eq_false_iff_ne.2 fun heq => hd (heq ▸ hmem)
  unfold isTime
  split
  · rw [hfields h]
    unfold isClock
    rw [List.mapM_cons, List.mapM_nil]
    cases fixedNumeral 2 cs <;> rfl
  · next clock fraction hcut =>
    have hclock : ':' ∉ clock := fun hmem =>
      h ((append_of_cutAtFirst hcut).1 ▸ List.mem_append_left _ hmem)
    rw [hfields hclock]
    exact Bool.and_eq_false_iff.2 (.inl (Bool.and_eq_false_iff.2 (.inr rfl)))

/-- **A word with no colon, and no dash but in front, is no date and no time.** -/
theorem isDateTime_eq_false (hdash : '-' ∉ cs.drop 1) (hcolon : ':' ∉ cs) :
    isDateTime cs = false := by
  have hprefix : '-' ∉ (cs.take 10).drop 1 := fun h =>
    hdash (((List.take_sublist 10 cs).drop 1).subset h)
  unfold isDateTime
  rw [isDate_eq_false hdash, isTime_eq_false hcolon, isDate_eq_false hprefix]
  rfl

/-! ## Numbers -/

/-- The characters of a word of digits and points, with or without a minus sign in front. -/
theorem cases_of_mem_signed {negative : Bool} (h : ∀ c ∈ cs, c.isDigit = true ∨ c = '.') {c : Char}
    (hc : c ∈ signChars negative ++ cs) : c.isDigit = true ∨ c = '.' ∨ c = '-' := by
  rcases List.mem_append.1 hc with hc | hc
  · exact .inr (.inr (eq_minus_of_mem_signChars hc))
  · exact (h c hc).imp_right .inl

/-- A word of digits and points is not one that has another character. -/
theorem signed_ne_of_mem {negative : Bool} (h : ∀ c ∈ cs, c.isDigit = true ∨ c = '.')
    {word : List Char} {c : Char} (hc : c ∈ word)
    (hno : c.isDigit = false ∧ c ≠ '.' ∧ c ≠ '-') : signChars negative ++ cs ≠ word := by
  rintro rfl
  rcases cases_of_mem_signed h hc with hd | hp | hm
  · rw [hno.1] at hd
    cases hd
  · exact hno.2.1 hp
  · exact hno.2.2 hm

/-- A word of digits and points is a number in base ten if it is one at all. -/
theorem number_eq_decimalNumber {negative : Bool} (h : ∀ c ∈ cs, c.isDigit = true ∨ c = '.')
    (hhead : ∀ c ∈ cs.head?, c.isDigit = true) :
    number (signChars negative ++ cs) = decimalNumber negative cs := by
  have hsign : Numeral.takeSign (signChars negative ++ cs) =
      (if negative then some '-' else none, cs) := by
    cases negative with
    | true => rfl
    | false =>
      refine Numeral.takeSign_eq_none fun c hc => ?_
      have := hhead c hc
      constructor <;> rintro rfl <;> cases this
  have hbase {c : Char} {rest : List Char} (hno : c.isDigit = false ∧ c ≠ '.' ∧ c ≠ '-') :
      signChars negative ++ cs ≠ '0' :: c :: rest :=
    signed_ne_of_mem h (List.mem_cons_of_mem _ List.mem_cons_self) hno
  have hunsigned {word : List Char} (hn : 'n' ∈ word) : cs ≠ word :=
    have hne : signChars false ++ cs ≠ word := signed_ne_of_mem h hn (by decide)
    hne
  have hinf : cs ≠ "inf".toList := hunsigned (by decide)
  have hnan : cs ≠ "nan".toList := hunsigned (by decide)
  unfold number
  split
  · next rest heq => exact absurd heq (hbase (by decide))
  · next rest heq => exact absurd heq (hbase (by decide))
  · next rest heq => exact absurd heq (hbase (by decide))
  · rw [hsign]
    dsimp only
    rw [if_neg hinf, if_neg hnan]
    cases negative <;> rfl

/-- Digits without underscores between them have them in the right places. -/
theorem underscoresBetween_of_not_mem {isDigit : Char → Bool} (h : '_' ∉ cs) :
    underscoresBetween isDigit cs = true := by
  have hfields : fieldsAt (· == '_') cs = [cs] :=
    fieldsAt_of_forall fun d hmem => beq_eq_false_iff_ne.2 fun heq => h (heq ▸ hmem)
  unfold underscoresBetween
  rw [hfields]
  rfl

theorem digitValue?_ten {c : Char} (h : c.isDigit = true) :
    digitValue? 10 c = some (c.toNat - 48) := by
  have hc : 48 ≤ c.toNat ∧ c.toNat ≤ 57 := by
    simpa [Char.isDigit, UInt32.le_iff_toNat_le] using h
  have hrange : '0' ≤ c ∧ c ≤ '9' := hc
  unfold digitValue?
  dsimp only
  rw [if_pos hrange, Option.filter_some, if_pos (decide_eq_true (by omega))]

/-- Digits in base ten have the value of a numeral. -/
theorem valueInBase?_ten (h : ∀ c ∈ cs, c.isDigit = true) :
    valueInBase? 10 cs = some (numeralValue cs) := by
  have hrun (acc : Nat) : cs.foldlM (fun acc c => (digitValue? 10 c).map (10 * acc + ·)) acc =
      some (Nat.ofDigitChars 10 cs acc) := by
    induction cs generalizing acc with
    | nil => rfl
    | cons c cs ih =>
      rw [List.foldlM_cons, digitValue?_ten (h c List.mem_cons_self), Nat.ofDigitChars_cons]
      exact ih (fun d hd => h d (List.mem_cons_of_mem c hd)) _
  exact hrun 0

/-- Digits have no underscore among them to pass over. -/
theorem integerOfDigits_of_forall {n : Nat} (hne : cs ≠ []) (h : ∀ c ∈ cs, c.isDigit = true)
    (hn : numeralValue cs = n) (hr : inIntegerRange n = true) :
    integerOfDigits false 10 cs = integer n := by
  have hfilter : cs.filter (· != '_') = cs := by
    refine List.filter_eq_self.2 fun c hc => bne_iff_ne.2 ?_
    rintro rfl
    cases h _ hc
  unfold integerOfDigits
  rw [hfilter]
  split
  · exact absurd rfl hne
  · rw [valueInBase?_ten h, hn]
    exact if_pos hr

/-- **Whole numbers are read back.** -/
theorem decimalNumber_toDigits {n : Nat} (h : inIntegerRange n = true) :
    decimalNumber false (Nat.toDigits 10 n) = some (integer n) := by
  have hne : Nat.toDigits 10 n ≠ [] := Nat.toDigits_ne_nil
  have hdigits : ∀ c ∈ Nat.toDigits 10 n, c.isDigit = true := fun _ => isDigit_of_mem_toDigits
  have hplain : (Nat.toDigits 10 n).head?.any Char.isDigit = true := by
    obtain ⟨c, cs, hcs⟩ := List.exists_cons_of_ne_nil hne
    rw [hcs] at hdigits ⊢
    exact hdigits c List.mem_cons_self
  have hzero :
      ((Nat.toDigits 10 n).head? != some '0' || (Nat.toDigits 10 n).length == 1) = true := by
    rcases Nat.eq_zero_or_pos n with rfl | hpos
    · rfl
    · exact Bool.or_eq_true_iff.2 (.inl (bne_iff_ne.2 (head?_toDigits_ne hpos)))
  have hrest : (Nat.toDigits 10 n).dropWhile Char.isDigit = [] :=
    List.dropWhile_eq_nil_iff.2 hdigits
  have hinteger := integerOfDigits_of_forall hne hdigits (numeralValue_toDigits n) h
  unfold decimalNumber
  dsimp only
  rw [hplain, hrest, hzero, hinteger]
  rfl

/-- A number that is written out is a floating-point number. -/
theorem floatingNumber_writtenOut (x : Finite64) :
    floatingNumber (signChars x.negative ++ (x.wholePart ++ '.' :: x.fractionPart)) =
      some (real (.finite x)) := by
  have hunderscore : '_' ∉ signChars x.negative ++ (x.wholePart ++ '.' :: x.fractionPart) := by
    intro h
    rcases List.mem_append.1 h with h | h
    · cases eq_minus_of_mem_signChars h
    · rcases List.mem_append.1 h with h | h
      · cases x.isDigit_of_mem_wholePart _ h
      · rcases List.mem_cons.1 h with h | h
        · cases h
        · cases x.isDigit_of_mem_fractionPart _ h
  have hfilter : (signChars x.negative ++ (x.wholePart ++ '.' :: x.fractionPart)).filter
      (· != '_') = signChars x.negative ++ (x.wholePart ++ '.' :: x.fractionPart) :=
    List.filter_eq_self.2 fun c hc => bne_iff_ne.2 fun heq => hunderscore (heq ▸ hc)
  have hfraction : x.writtenOut.fractionHasDigits = true := by
    show (!x.fractionPart.isEmpty) = true
    rw [List.isEmpty_eq_false_iff.2 x.fractionPart_ne_nil]
    rfl
  unfold floatingNumber
  rw [underscoresBetween_of_not_mem hunderscore, hfilter, x.ofChars?_writtenOut]
  dsimp only
  rw [x.wholeIsPlain_writtenOut, hfraction, x.ofScaled_writtenOut]
  rfl

/-- **Numbers with a point are read back.** -/
theorem decimalNumber_writtenOut (x : Finite64) :
    decimalNumber x.negative (x.wholePart ++ '.' :: x.fractionPart) = some (real (.finite x)) := by
  have hplain : (x.wholePart ++ '.' :: x.fractionPart).head?.any Char.isDigit = true := by
    obtain ⟨c, cs, hcs⟩ := List.exists_cons_of_ne_nil x.wholePart_ne_nil
    have hc := x.isDigit_of_mem_wholePart c
    rw [hcs] at hc ⊢
    exact hc List.mem_cons_self
  have hrest : (x.wholePart ++ '.' :: x.fractionPart).dropWhile Char.isDigit =
      '.' :: x.fractionPart :=
    List.dropWhile_append_of_pos x.isDigit_of_mem_wholePart
  have hblank : ('.' :: x.fractionPart).contains ' ' = false := by
    refine Bool.eq_false_iff.2 fun h => ?_
    rcases List.mem_cons.1 (List.contains_iff_mem.1 h) with h | h
    · cases h
    · cases x.isDigit_of_mem_fractionPart _ h
  have hsigned : (if x.negative = true then '-' :: (x.wholePart ++ '.' :: x.fractionPart)
      else x.wholePart ++ '.' :: x.fractionPart) =
        signChars x.negative ++ (x.wholePart ++ '.' :: x.fractionPart) := by
    cases x.negative <;> rfl
  unfold decimalNumber
  dsimp only
  rw [hplain, hrest, hblank, hsigned, floatingNumber_writtenOut]
  rfl

/-! ## Words -/

/-- A word of digits and points, with or without a minus sign in front, stands for a number. -/
theorem ofWord?_eq_decimalNumber {negative : Bool} (h : ∀ c ∈ cs, c.isDigit = true ∨ c = '.')
    (hhead : ∀ c ∈ cs.head?, c.isDigit = true) :
    ofWord? (signChars negative ++ cs) = decimalNumber negative cs := by
  have htrue : signChars negative ++ cs ≠ "true".toList :=
    signed_ne_of_mem h (show 'e' ∈ "true".toList by decide) (by decide)
  have hfalse : signChars negative ++ cs ≠ "false".toList :=
    signed_ne_of_mem h (show 'e' ∈ "false".toList by decide) (by decide)
  have hcolon : ':' ∉ signChars negative ++ cs := fun hc =>
    signed_ne_of_mem h hc (by decide) rfl
  have hdash : '-' ∉ (signChars negative ++ cs).drop 1 := by
    have hcs : '-' ∉ cs := fun hc => (h '-' hc).elim nofun nofun
    cases negative with
    | true => exact hcs
    | false => exact fun hc => hcs ((List.drop_sublist 1 cs).subset hc)
  unfold ofWord?
  rw [if_neg htrue, if_neg hfalse, isDateTime_eq_false hdash hcolon,
    number_eq_decimalNumber h hhead]
  rfl

/-- **The digits of a whole number stand for it.** -/
theorem ofWord?_toDigits {n : Nat} (h : inIntegerRange n = true) :
    ofWord? (Nat.toDigits 10 n) = some (integer n) := by
  have hdigits : ∀ c ∈ Nat.toDigits 10 n, c.isDigit = true := fun _ => isDigit_of_mem_toDigits
  have hword : ofWord? (signChars false ++ Nat.toDigits 10 n) = _ :=
    ofWord?_eq_decimalNumber (fun c hc => .inl (hdigits c hc))
      fun c hc => hdigits c (List.mem_of_head? hc)
  exact hword.trans (decimalNumber_toDigits h)

/-- **A floating-point number that is written out stands for itself.** -/
theorem ofWord?_chars {layout : NumberLayout} {x : Finite64}
    (h : layout.positional x.leadingExponent = true) :
    ofWord? (x.chars layout) = some (real (.finite x)) := by
  rw [Finite64.chars_of_positional h, ofWord?_eq_decimalNumber, decimalNumber_writtenOut]
  · intro c hc
    rcases List.mem_append.1 hc with hc | hc
    · exact .inl (x.isDigit_of_mem_wholePart c hc)
    · exact (List.mem_cons.1 hc).elim .inr fun hc => .inl (x.isDigit_of_mem_fractionPart c hc)
  · obtain ⟨c, cs, hcs⟩ := List.exists_cons_of_ne_nil x.wholePart_ne_nil
    have hc := x.isDigit_of_mem_wholePart c
    rw [hcs] at hc ⊢
    intro d hd
    cases hd
    exact hc List.mem_cons_self

end Toml

end ChartData
