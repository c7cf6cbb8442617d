import ChartData.Number.Binary64

/-!
# Numbers read in steps

Numbers in data are read in one pass and with a fixed amount of work each. The digits are gathered
in a word of 64 bits (`Numeral.gathered`), the word becomes a floating-point number, and that number
is multiplied or divided by a power of ten (`Finite64.scaled?`). Every step rounds to nearest, so
the result may miss the number nearest to the text by a little: the price of a reader that never
computes with long numbers.

A digit before the point that the word has no room for is lost, with all that follow it before the
point, and each leaves only its place behind, a factor of ten. The digits after the point are then
tried afresh; the first of them that the word has no room for is passed over, with all that follow
it. As long as the word has room for all digits, nothing is lost.
-/

namespace ChartData

/-! ## Gathering digits -/

/-- **A word of 64 bits continued by digits**, as long as it has room for them, and how many digits
are left over. -/
def gatherDigits (word : Nat) : List Char → Nat × Nat
  | [] => (word, 0)
  | c :: cs =>
    let longer := Nat.ofDigitChars 10 [c] word
    if longer < UInt64.size then gatherDigits longer cs else (word, cs.length + 1)

namespace Numeral

/-- **The magnitude as far as a word of 64 bits has room for its digits.** -/
def gathered (n : Numeral) : Scaled :=
  let fraction := n.fraction.getD []
  let (word, lost) := gatherDigits 0 n.whole
  let (word, passed) := gatherDigits word fraction
  ⟨word, n.exponentValue + lost - (fraction.length - passed : Nat)⟩

end Numeral

/-! ## Scaling -/

namespace Finite64

/-- The number nearest to the product of two numbers; nothing if that is infinite. -/
def times? (x y : Finite64) : Option Finite64 :=
  let (xNum, xDen) := x.ratio
  let (yNum, yDen) := y.ratio
  (Binary64.ofRank (x.negative != y.negative)
    (nearestRank (xNum * yNum) (xDen * yDen))).finite?

/-- The number nearest to the quotient of two numbers; nothing if that is infinite. -/
def over? (x y : Finite64) : Option Finite64 :=
  let (xNum, xDen) := x.ratio
  let (yNum, yDen) := y.ratio
  (Binary64.ofRank (x.negative != y.negative)
    (nearestRank (xNum * yDen) (xDen * yNum))).finite?

/-- The number nearest to a power of ten; nothing beyond `greatestPower`. -/
def powerOfTen? (e : Nat) : Option Finite64 := (Binary64.ofScaled false ⟨1, e⟩).finite?

/-- The exponent of the greatest power of ten that is a finite number. -/
def greatestPower : Nat := 308

/-- **The number times a power of ten**, rounded after each step; nothing if that is infinite. A
number is divided by at most two powers, and what has to be divided by more is zero. -/
def scaled? (x : Finite64) (e : Int) : Option Finite64 :=
  if x.isZero then some x
  else if 0 ≤ e then (powerOfTen? e.toNat).bind x.times?
  else
    let down := (-e).toNat
    if down ≤ greatestPower then (powerOfTen? down).bind x.over?
    else if down ≤ 2 * greatestPower then do
      let x ← (powerOfTen? greatestPower).bind x.over?
      (powerOfTen? (down - greatestPower)).bind x.over?
    else some { x with rank := 0 }

end Finite64

/-- **The number that a numeral stands for when it is read in steps**; nothing if it is infinite. -/
def Numeral.inSteps? (n : Numeral) : Option Finite64 :=
  let magnitude := n.gathered
  (Binary64.ofScaled n.isNegative ⟨magnitude.digits, 0⟩).finite?.bind (·.scaled? magnitude.exponent)

end ChartData
