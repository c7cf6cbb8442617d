/-!
# Digits

Whole numbers as text. Printing is `Nat.toDigits 10`; what is added here is the fixed-width form
with leading zeros that clocks and calendars use (`zeroPadded`), the test that a text is a
numeral (`allDigits`), and the value of one (`numeralValue`). What is printed is a
numeral and has the value that was printed, with zeros in front or without.

Only the ten ASCII digits count as digits.
-/

namespace ChartData

/-- **Numerals**: one digit or more, and nothing else. -/
def allDigits (cs : List Char) : Bool :=
  !cs.isEmpty && cs.all Char.isDigit

/-- The number a numeral denotes; leading zeros do not matter. -/
def numeralValue (cs : List Char) : Nat :=
  Nat.ofDigitChars 10 cs 0

theorem isDigit_of_mem_toDigits {n : Nat} {c : Char} (h : c ∈ Nat.toDigits 10 n) :
    c.isDigit = true :=
  Nat.isDigit_of_mem_toDigits (by decide) (by decide) h

/-- **The digits of a number are read back.** -/
@[simp] theorem numeralValue_toDigits (n : Nat) : numeralValue (Nat.toDigits 10 n) = n :=
  Nat.ofDigitChars_ten_toDigits

/-- **The decimal form of `n`, at least `width` digits long**: short numbers get zeros in front,
long ones are written in full. -/
def zeroPadded (width n : Nat) : List Char :=
  let ds := Nat.toDigits 10 n
  List.replicate (width - ds.length) '0' ++ ds

/-- A number with zeros in front is a numeral. -/
theorem allDigits_zeroPadded (width n : Nat) : allDigits (zeroPadded width n) = true := by
  have hne : zeroPadded width n ≠ [] := by
    simp [zeroPadded, Nat.toDigits_ne_nil]
  have hall : ∀ c ∈ zeroPadded width n, c.isDigit = true := by
    intro c hc
    rcases List.mem_append.mp hc with hzero | hdigit
    · rw [(List.mem_replicate.mp hzero).2]
      rfl
    · exact isDigit_of_mem_toDigits hdigit
  unfold allDigits
  rw [List.all_eq_true.mpr hall, Bool.and_true, Bool.not_eq_true', List.isEmpty_eq_false_iff]
  exact hne

/-- **Zeros in front do not change the value.** -/
@[simp] theorem numeralValue_zeroPadded (width n : Nat) :
    numeralValue (zeroPadded width n) = n := by
  unfold numeralValue zeroPadded
  rw [Nat.ofDigitChars_append, Nat.ofDigitChars_replicate_zero, Nat.mul_zero]
  exact numeralValue_toDigits n

/-- The decimal form of an integer, a minus sign in front of a negative one. -/
def integerDigits (n : Int) : List Char :=
  if n < 0 then '-' :: Nat.toDigits 10 n.natAbs else Nat.toDigits 10 n.natAbs

/-- The value of a digit in a base up to sixteen; letters count from ten, in either case. -/
def digitValue? (base : Nat) (c : Char) : Option Nat :=
  let n := c.toNat
  let v :=
    if '0' ≤ c ∧ c ≤ '9' then some (n - 48)
    else if 'a' ≤ c ∧ c ≤ 'f' then some (n - 87)
    else if 'A' ≤ c ∧ c ≤ 'F' then some (n - 55)
    else none
  v.filter (· < base)

/-- The number a text denotes in a base up to sixteen; nothing if a character is no digit of it. -/
def valueInBase? (base : Nat) (cs : List Char) : Option Nat :=
  cs.foldlM (fun acc c => (digitValue? base c).map (base * acc + ·)) 0

end ChartData
