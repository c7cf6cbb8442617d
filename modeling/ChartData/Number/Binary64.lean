import ChartData.Number.Numeral

/-!
# Binary floating point of 64 bits

Values of a series are numbers of the usual floating-point kind, and nothing is ever computed with
them: they are read from a text, carried along, compared and written again. So they are data here,
a sign and the position of the magnitude among all magnitudes, and reading is exact arithmetic on
natural numbers.

The **rank** of a magnitude is the number of magnitudes below it. The magnitudes below `2 ^ 52` are
the multiples of `2 ^ -1074`, one for each rank; from there on every `2 ^ 52` ranks the spacing
doubles. The rank is also the bit pattern without its sign bit, which is why rounding up from one
binade into the next needs no care: the next rank is the next magnitude.

`nearestRank` rounds a ratio of natural numbers to the nearest magnitude, a tie to the even rank.
`Binary64.ofScaled` reads a decimal number with it, and everything at or beyond the last rank is
infinite.
-/

namespace ChartData

/-- The number of ranks from one power of two to the next, `2 ^ 52`. -/
abbrev binade : Nat := 0x10000000000000

/-- **A finite number**: a sign and a rank. Zero comes with either sign. -/
structure Finite64 where
  /-- Whether the sign bit is set. -/
  negative : Bool
  /-- How many magnitudes are smaller. -/
  rank : Fin (2047 * binade)
deriving DecidableEq, Repr

/-- **A floating-point number of 64 bits**, all not-a-numbers taken as one. -/
inductive Binary64 where
  /-- A finite number. -/
  | finite (x : Finite64)
  /-- Infinity of the given sign. -/
  | infinite (negative : Bool)
  /-- Not a number. -/
  | nan
deriving DecidableEq, Repr

namespace Finite64

/-- Positive zero. -/
def zero : Finite64 := ⟨false, 0, by decide⟩

instance : Inhabited Finite64 := ⟨zero⟩

/-- One. -/
def one : Finite64 := ⟨false, 1023 * binade, by decide⟩

/-- Whether the number is zero, of either sign. -/
def isZero (x : Finite64) : Bool := x.rank.val == 0

/-- **The whole part of the magnitude in its own unit.** Together with `unitExponent` it is the
exact magnitude, `significand * 2 ^ unitExponent`. -/
def significand (x : Finite64) : Nat :=
  if x.rank.val < binade then x.rank.val else x.rank.val % binade + binade

/-- The power of two that the significand counts. -/
def unitExponent (x : Finite64) : Int :=
  if x.rank.val < binade then -1074 else (x.rank.val / binade : Nat) - 1075

/-- The exact magnitude as a ratio of natural numbers. -/
def ratio (x : Finite64) : Nat × Nat :=
  if x.unitExponent < 0 then (x.significand, 1 <<< (-x.unitExponent).toNat)
  else (x.significand <<< x.unitExponent.toNat, 1)

/-- **Numerical equality**: the two zeros are one number. -/
def equal (x y : Finite64) : Bool := x == y || (x.isZero && y.isZero)

end Finite64

/-- The whole number nearest to `num / den`; a half goes to the even neighbour. -/
def roundHalfEven (num den : Nat) : Nat :=
  let q := num / den
  let r := num % den
  if 2 * r < den then q
  else if den < 2 * r then q + 1
  else q + q % 2

/-- **The rank of the magnitude nearest to `num / den`**, with ranks running on beyond the finite
ones. The unit is chosen so that the significand has 53 bits, or is the least there is. -/
def nearestRank (num den : Nat) : Nat :=
  if num = 0 then 0 else
  let k : Int := (Nat.log2 num : Int) - Nat.log2 den
  let reaches : Bool := if k < 0 then den ≤ num <<< (-k).toNat else den <<< k.toNat ≤ num
  let q : Int := max (if reaches then k - 52 else k - 53) (-1074)
  let n := if q < 0 then roundHalfEven (num <<< (-q).toNat) den
    else roundHalfEven num (den <<< q.toNat)
  (q + 1074).toNat * binade + n

namespace Binary64

/-- The number with the given sign and rank, infinite beyond the last finite rank. -/
def ofRank (negative : Bool) (rank : Nat) : Binary64 :=
  if h : rank < 2047 * binade then finite ⟨negative, rank, h⟩ else infinite negative

/-- **The number nearest to a decimal one.** Exponents far outside the range are decided at once,
so that no power of ten is computed that the digits do not call for: a whole number of units of
`10 ^ 400` is beyond every finite number, and `10 ^ e` is more than `2 ^ (3 * e)`. -/
def ofScaled (negative : Bool) (x : Scaled) : Binary64 :=
  if x.digits = 0 then ofRank negative 0
  else if 0 ≤ x.exponent then
    if 400 < x.exponent then infinite negative
    else ofRank negative (nearestRank (x.digits * Nat.pow 10 x.exponent.toNat) 1)
  else if Nat.log2 x.digits + 1077 ≤ 3 * (-x.exponent).toNat then ofRank negative 0
  else ofRank negative (nearestRank x.digits (Nat.pow 10 (-x.exponent).toNat))

/-- The number nearest to an integer. -/
def ofInt (n : Int) : Binary64 :=
  ofRank (n < 0) (nearestRank n.natAbs 1)

/-- The finite number, if it is one. -/
def finite? : Binary64 → Option Finite64
  | finite x => some x
  | _ => none

/-- Whether the number is finite. -/
def isFinite (x : Binary64) : Bool := x.finite?.isSome

/-- **Numerical equality**: the zeros are equal, and not-a-number equals nothing. -/
def equal : Binary64 → Binary64 → Bool
  | finite x, finite y => x.equal y
  | infinite a, infinite b => a == b
  | _, _ => false

/-- **A number in a text that people wrote**: an optional sign, then `inf`, `infinity` or `nan` in
any case, or digits with an optional point on either side of them and an optional exponent. -/
def ofChars? (cs : List Char) : Option Binary64 :=
  let (sign, rest) := Numeral.takeSign cs
  let negative := sign == some '-'
  let word := rest.map Char.toLower
  if word = "inf".toList ∨ word = "infinity".toList then some (infinite negative)
  else if word = "nan".toList then some nan
  else
    match Numeral.ofChars? cs with
    | some n =>
      if n.exponentHasDigits && !(n.whole.isEmpty && (n.fraction.getD []).isEmpty) then
        some (ofScaled n.isNegative n.scaled)
      else none
    | none => none

end Binary64

end ChartData
