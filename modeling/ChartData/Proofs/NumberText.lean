import ChartData.Json.Token
import Mathlib.Data.List.TakeWhile

/-!
# Numbers as text

A whole number is written by its digits, without an idle zero in front, and its digits are read back
as the number. What is read as a number has the parts it was written with
(`Numeral.ofChars?_parts`), and is made of nothing but the characters of numbers
(`Token.isNumeralChar_of_mem_numberChars`); so where a number ends in a text is told by the first
character that is none of them.

Integers in data are read back as they are (`Token.readNumber_integerDigits`).
-/

namespace ChartData

/-! ## Digits -/

/-- The digits of a number that is not zero start with no zero. -/
theorem head?_toDigits_ne {n : Nat} (h : 0 < n) : (Nat.toDigits 10 n).head? ≠ some '0' := by
  induction n using Nat.strongRecOn with
  | ind n ih =>
    rw [Nat.toDigits_eq_if (by decide)]
    split
    · next hlt =>
      intro hzero
      have := Nat.digitChar_eq_zero.1 (Option.some.inj hzero)
      omega
    · next hge =>
      rw [List.head?_append, Option.or_of_isSome (List.isSome_head?.2 Nat.toDigits_ne_nil)]
      exact ih (n / 10) (by omega) (by omega)

/-! ## The parts of a numeral -/

namespace Numeral

variable {cs whole : List Char} {sign : Option Char} {fraction : Option (List Char)} {n : Numeral}

/-- A text that starts with no sign has none. -/
theorem takeSign_eq_none (h : ∀ c ∈ cs.head?, c ≠ '+' ∧ c ≠ '-') : takeSign cs = (none, cs) := by
  unfold takeSign
  split
  · exact absurd rfl (h '+' rfl).1
  · exact absurd rfl (h '-' rfl).2
  · rfl

/-- Digits that start with no zero have no idle one in front. -/
theorem wholeIsPlain_of_head?_ne (hne : n.whole ≠ []) (hzero : n.whole.head? ≠ some '0') :
    n.wholeIsPlain = true := by
  unfold wholeIsPlain
  split
  · next heq => exact absurd heq hne
  · rfl
  · next c rest _ heq =>
    rw [heq] at hzero
    simpa using hzero

/-- The point and the digits after it, where there is a point. -/
def fractionChars (fraction : Option (List Char)) : List Char := fraction.elim [] ('.' :: ·)

theorem head?_fractionChars (fraction : Option (List Char)) :
    ∀ c ∈ (fractionChars fraction).head?, c = '.' := by
  cases fraction with
  | none => nofun
  | some ds =>
    intro c hc
    exact (Option.some.inj hc).symm

/-- **A numeral that is written without an exponent** has the parts it was written with. -/
theorem ofChars?_parts (hs : sign = none ∨ sign = some '-')
    (hw : ∀ c ∈ whole, c.isDigit = true) (hf : ∀ ds ∈ fraction, ∀ c ∈ ds, c.isDigit = true) :
    ofChars? (sign.toList ++ (whole ++ fractionChars fraction)) =
      some ⟨sign, whole, fraction, none⟩ := by
  have hsign : takeSign (sign.toList ++ (whole ++ fractionChars fraction)) =
      (sign, whole ++ fractionChars fraction) := by
    rcases hs with rfl | rfl
    · refine takeSign_eq_none fun c hc => ?_
      rw [Option.toList_none, List.nil_append, List.head?_append, Option.mem_def,
        Option.or_eq_some_iff] at hc
      rcases hc with hc | ⟨-, hc⟩
      · have := hw c (List.mem_of_head? hc)
        constructor <;> rintro rfl <;> cases this
      · rw [head?_fractionChars fraction c hc]
        decide
    · rfl
  unfold ofChars?
  rw [hsign]
  dsimp only
  rw [List.takeWhile_append_of_pos hw, List.dropWhile_append_of_pos hw]
  cases fraction with
  | none =>
    simp [fractionChars]
  | some ds =>
    have htake : ds.takeWhile Char.isDigit = ds := List.takeWhile_eq_self_iff.2 (hf ds rfl)
    have hdrop : ds.dropWhile Char.isDigit = [] := List.dropWhile_eq_nil_iff.2 (hf ds rfl)
    simp [fractionChars, htake, hdrop]

end Numeral

/-! ## Layouts -/

namespace NumberLayout

variable {digits : List Char} {point : Int}

/-- The digits before the point. -/
def wholeDigits (digits : List Char) (point : Int) : List Char :=
  if point ≤ 0 then ['0']
  else if digits.length ≤ point.toNat then
    digits ++ List.replicate (point.toNat - digits.length) '0'
  else digits.take point.toNat

/-- The digits after the point. -/
def fractionDigits (digits : List Char) (point : Int) : List Char :=
  if point ≤ 0 then List.replicate (-point).toNat '0' ++ digits
  else if digits.length ≤ point.toNat then ['0']
  else digits.drop point.toNat

/-- **A number that is written out** has digits on either side of a point. -/
theorem withPoint_eq (digits : List Char) (point : Int) :
    withPoint digits point = wholeDigits digits point ++ '.' :: fractionDigits digits point := by
  unfold withPoint wholeDigits fractionDigits
  split
  · rfl
  · split <;> rfl

theorem isDigit_of_mem_wholeDigits (h : ∀ c ∈ digits, c.isDigit = true) :
    ∀ c ∈ wholeDigits digits point, c.isDigit = true := by
  unfold wholeDigits
  intro c hc
  split at hc
  · rw [List.mem_singleton.1 hc]
    rfl
  · split at hc
    · rcases List.mem_append.1 hc with hc | hc
      · exact h c hc
      · rw [List.eq_of_mem_replicate hc]
        rfl
    · exact h c (List.mem_of_mem_take hc)

theorem isDigit_of_mem_fractionDigits (h : ∀ c ∈ digits, c.isDigit = true) :
    ∀ c ∈ fractionDigits digits point, c.isDigit = true := by
  unfold fractionDigits
  intro c hc
  split at hc
  · rcases List.mem_append.1 hc with hc | hc
    · rw [List.eq_of_mem_replicate hc]
      rfl
    · exact h c hc
  · split at hc
    · rw [List.mem_singleton.1 hc]
      rfl
    · exact h c (List.mem_of_mem_drop hc)

theorem wholeDigits_ne_nil (h : digits ≠ []) : wholeDigits digits point ≠ [] := by
  unfold wholeDigits
  split
  · exact List.cons_ne_nil _ _
  · split
    · exact List.append_ne_nil_of_left_ne_nil h _
    · next hpoint _ =>
      rw [Ne, List.take_eq_nil_iff, not_or]
      exact ⟨by omega, h⟩

theorem fractionDigits_ne_nil (h : digits ≠ []) : fractionDigits digits point ≠ [] := by
  unfold fractionDigits
  split
  · exact List.append_ne_nil_of_right_ne_nil _ h
  · split
    · exact List.cons_ne_nil _ _
    · next hlength =>
      rw [Ne, List.drop_eq_nil_iff]
      omega

theorem mem_withExponent {e : Int} {c : Char} (h : c ∈ withExponent digits e) :
    c ∈ digits ∨ c ∈ ['.', 'e', '-', '+'] ∨ c ∈ Nat.toDigits 10 e.natAbs := by
  have hexponent : c ∈ 'e' :: (if e < 0 then '-' else '+') :: Nat.toDigits 10 e.natAbs →
      c ∈ ['.', 'e', '-', '+'] ∨ c ∈ Nat.toDigits 10 e.natAbs := by
    intro h
    rcases List.mem_cons.1 h with rfl | h
    · exact .inl (by decide)
    · rcases List.mem_cons.1 h with rfl | h
      · refine .inl ?_
        split <;> decide
      · exact .inr h
  rcases digits with _ | ⟨d, _ | ⟨d', rest⟩⟩
  · exact .inr (hexponent h)
  · rcases List.mem_cons.1 h with rfl | h
    · exact .inl List.mem_cons_self
    · exact .inr (hexponent h)
  · have h : c ∈ d :: '.' :: ((d' :: rest) ++ _) := h
    rcases List.mem_cons.1 h with rfl | h
    · exact .inl List.mem_cons_self
    · rcases List.mem_cons.1 h with rfl | h
      · exact .inr (.inl (by decide))
      · rcases List.mem_append.1 h with h | h
        · exact .inl (List.mem_cons_of_mem d h)
        · exact .inr (hexponent h)

/-- A number with an exponent starts with a digit. -/
theorem withExponent_eq_cons (h : digits ≠ []) (e : Int) :
    ∃ c ∈ digits, ∃ rest, withExponent digits e = c :: rest := by
  rcases digits with _ | ⟨c, _ | ⟨d, rest⟩⟩
  · exact absurd rfl h
  · exact ⟨c, List.mem_cons_self, _, rfl⟩
  · exact ⟨c, List.mem_cons_self, _, rfl⟩

end NumberLayout

/-! ## Signs -/

/-- The sign in front of a number: a minus or nothing. -/
def signChars (negative : Bool) : List Char := if negative then ['-'] else []

theorem eq_minus_of_mem_signChars {negative : Bool} {c : Char} (h : c ∈ signChars negative) :
    c = '-' := by
  cases negative with
  | true => exact List.mem_singleton.1 h
  | false => cases h

theorem integerDigits_eq (n : Int) :
    integerDigits n = signChars (n < 0) ++ Nat.toDigits 10 n.natAbs := by
  unfold integerDigits signChars
  by_cases h : n < 0 <;> simp [h]

namespace Finite64

/-- The digits that a number is written with. -/
def shortestDigits (x : Finite64) : List Char := Nat.toDigits 10 x.shortest.digits

/-- The decimal exponent of the first of these digits. -/
def leadingExponent (x : Finite64) : Int := x.shortest.exponent + x.shortestDigits.length - 1

theorem isDigit_of_mem_shortestDigits {x : Finite64} : ∀ c ∈ x.shortestDigits, c.isDigit = true :=
  fun _ => isDigit_of_mem_toDigits

/-- The text of a number without its sign. -/
def magnitudeChars (layout : NumberLayout) (x : Finite64) : List Char :=
  if layout.positional x.leadingExponent then
    NumberLayout.withPoint x.shortestDigits (x.leadingExponent + 1)
  else NumberLayout.withExponent x.shortestDigits x.leadingExponent

theorem chars_eq (layout : NumberLayout) (x : Finite64) :
    x.chars layout = signChars x.negative ++ x.magnitudeChars layout := by
  unfold chars signChars
  cases x.negative <;> rfl

theorem magnitudeChars_eq_cons (layout : NumberLayout) (x : Finite64) :
    ∃ c rest, x.magnitudeChars layout = c :: rest ∧ c.isDigit = true := by
  unfold magnitudeChars
  split
  · rw [NumberLayout.withPoint_eq]
    have hne : NumberLayout.wholeDigits x.shortestDigits (x.leadingExponent + 1) ≠ [] :=
      NumberLayout.wholeDigits_ne_nil Nat.toDigits_ne_nil
    obtain ⟨c, rest, h⟩ := List.exists_cons_of_ne_nil hne
    refine ⟨c, rest ++ _, by rw [h]; rfl, ?_⟩
    exact NumberLayout.isDigit_of_mem_wholeDigits isDigit_of_mem_shortestDigits c
      (by rw [h]; exact List.mem_cons_self)
  · obtain ⟨c, hc, rest, h⟩ :=
      NumberLayout.withExponent_eq_cons (Nat.toDigits_ne_nil : x.shortestDigits ≠ []) _
    exact ⟨c, rest, h, isDigit_of_mem_shortestDigits c hc⟩

end Finite64

/-! ## The characters of numbers in data -/

namespace Token

theorem isNumeralChar_of_isDigit {c : Char} (h : c.isDigit = true) : isNumeralChar c = true := by
  unfold isNumeralChar
  rw [h]
  rfl

theorem isNumeralChar_of_mem_withPoint {digits : List Char} {point : Int}
    (h : ∀ c ∈ digits, c.isDigit = true) {c : Char}
    (hc : c ∈ NumberLayout.withPoint digits point) : isNumeralChar c = true := by
  rw [NumberLayout.withPoint_eq, List.mem_append, List.mem_cons] at hc
  rcases hc with hc | rfl | hc
  · exact isNumeralChar_of_isDigit (NumberLayout.isDigit_of_mem_wholeDigits h c hc)
  · rfl
  · exact isNumeralChar_of_isDigit (NumberLayout.isDigit_of_mem_fractionDigits h c hc)

theorem isNumeralChar_of_mem_withExponent {digits : List Char} {e : Int}
    (h : ∀ c ∈ digits, c.isDigit = true) {c : Char}
    (hc : c ∈ NumberLayout.withExponent digits e) : isNumeralChar c = true := by
  rcases NumberLayout.mem_withExponent hc with hc | hc | hc
  · exact isNumeralChar_of_isDigit (h c hc)
  · simp only [List.mem_cons, List.not_mem_nil, or_false] at hc
    rcases hc with rfl | rfl | rfl | rfl <;> rfl
  · exact isNumeralChar_of_isDigit (isDigit_of_mem_toDigits hc)

/-- **A number is written with the characters of numbers.** -/
theorem isNumeralChar_of_mem_numberChars {n : JsonNumber} {c : Char} (hc : c ∈ numberChars n) :
    isNumeralChar c = true := by
  cases n with
  | integer n _ =>
    rw [numberChars, integerDigits_eq, List.mem_append] at hc
    rcases hc with hc | hc
    · rw [eq_minus_of_mem_signChars hc]
      rfl
    · exact isNumeralChar_of_isDigit (isDigit_of_mem_toDigits hc)
  | real x =>
    rw [numberChars, Finite64.chars_eq, List.mem_append] at hc
    rcases hc with hc | hc
    · rw [eq_minus_of_mem_signChars hc]
      rfl
    · unfold Finite64.magnitudeChars at hc
      split at hc
      · exact isNumeralChar_of_mem_withPoint Finite64.isDigit_of_mem_shortestDigits hc
      · exact isNumeralChar_of_mem_withExponent Finite64.isDigit_of_mem_shortestDigits hc

/-- **A number starts with a digit or a minus sign.** -/
theorem numberChars_eq_cons (n : JsonNumber) :
    ∃ c rest, numberChars n = c :: rest ∧ (c.isDigit || c == '-') = true := by
  have hsign {negative : Bool} {cs : List Char} (h : ∃ c rest, cs = c :: rest ∧ c.isDigit = true) :
      ∃ c rest, signChars negative ++ cs = c :: rest ∧ (c.isDigit || c == '-') = true := by
    obtain ⟨c, rest, rfl, hc⟩ := h
    cases negative with
    | true => exact ⟨'-', c :: rest, rfl, rfl⟩
    | false => exact ⟨c, rest, rfl, by rw [hc]; rfl⟩
  cases n with
  | integer n _ =>
    rw [numberChars, integerDigits_eq]
    have hne : Nat.toDigits 10 n.natAbs ≠ [] := Nat.toDigits_ne_nil
    obtain ⟨c, rest, h⟩ := List.exists_cons_of_ne_nil hne
    exact hsign ⟨c, rest, h, isDigit_of_mem_toDigits (by rw [h]; exact List.mem_cons_self)⟩
  | real x =>
    rw [numberChars, Finite64.chars_eq]
    exact hsign (x.magnitudeChars_eq_cons numberLayout)

/-- The digits of a number have no idle zero in front. -/
theorem wholeIsPlain_of_eq_toDigits {m : Numeral} {n : Nat} (h : m.whole = Nat.toDigits 10 n) :
    m.wholeIsPlain = true := by
  by_cases hn : n = 0
  · unfold Numeral.wholeIsPlain
    rw [h, hn]
    rfl
  · refine Numeral.wholeIsPlain_of_head?_ne ?_ ?_
    · rw [h]
      exact Nat.toDigits_ne_nil
    · rw [h]
      exact head?_toDigits_ne (Nat.pos_of_ne_zero hn)

/-- The parts of an integer that is written by its digits. -/
theorem ofChars?_integerDigits (n : Int) :
    Numeral.ofChars? (integerDigits n) =
      some ⟨if n < 0 then some '-' else none, Nat.toDigits 10 n.natAbs, none, none⟩ := by
  have hsign : signChars (n < 0) = (if n < 0 then some '-' else none : Option Char).toList := by
    unfold signChars
    split <;> simp_all
  have hdigits : Nat.toDigits 10 n.natAbs ++ Numeral.fractionChars none =
      Nat.toDigits 10 n.natAbs := List.append_nil _
  rw [integerDigits_eq, hsign, ← hdigits, Numeral.ofChars?_parts]
  · rw [hdigits]
  · split
    · exact .inr rfl
    · exact .inl rfl
  · exact fun c => isDigit_of_mem_toDigits
  · exact nofun

/-- **Integers are read back.** -/
theorem readNumber_integerDigits (n : Int)
    (h : -0x8000000000000000 ≤ n ∧ n < 0x10000000000000000) :
    readNumber (integerDigits n) = some (some (.integer n h)) := by
  unfold readNumber
  rw [ofChars?_integerDigits]
  dsimp only
  rw [wholeIsPlain_of_eq_toDigits rfl, numeralValue_toDigits]
  have hint : JsonNumber.ofInt n = some (.integer n h) := dif_pos h
  by_cases hn : n < 0
  · have hne : (n.natAbs == 0) = false := beq_eq_false_iff_ne.2 (by omega)
    have habs : -(n.natAbs : Int) = n := by omega
    rw [if_pos hn]
    show some ((if (!(n.natAbs == 0)) = true then JsonNumber.ofInt (-(n.natAbs : Int))
      else none).or _) = _
    rw [hne, habs, hint]
    rfl
  · have habs : (n.natAbs : Int) = n := by omega
    rw [if_neg hn]
    show some ((if (!(false && n.natAbs == 0)) = true then JsonNumber.ofInt (n.natAbs : Int)
      else none).or _) = _
    rw [habs, hint]
    rfl

end Token

end ChartData
