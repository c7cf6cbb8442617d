import ChartData.Number.Binary64

/-!
# Shortest decimal text of a floating-point number

A number is written with the fewest digits that read back as the number itself. `shortest` looks
for them: the number lies between two neighbours on the grid of the powers of ten, on the grid of
the decimal numbers with one digit, then two, and so on; the first grid on which a neighbour reads
back is the one, and if both do, the nearer is taken, the even one of two equally near. Seventeen
digits always suffice; should none read back, the exact expansion does.

Which digits are written is one question and how they are laid out is another. A `NumberLayout`
answers the second: it says for which decimal exponents the digits are written out in full.
-/

namespace ChartData

namespace Finite64

/-- The exact magnitude as a decimal number: a power of two divides a power of ten. -/
def expansion (x : Finite64) : Scaled :=
  if x.unitExponent < 0 then ⟨x.significand * Nat.pow 5 (-x.unitExponent).toNat, x.unitExponent⟩
  else ⟨x.significand <<< x.unitExponent.toNat, 0⟩

/-- The decimal exponent: the greatest `e` with `10 ^ e` at most the magnitude. The power of two
at or below the magnitude gives it up to one, by the first digits of the logarithm of two. -/
def decimalExponent (x : Finite64) : Int :=
  let (num, den) := x.ratio
  let e : Int := ((Nat.log2 num : Int) - Nat.log2 den - 1) * 30103 / 100000
  let atLeast (e : Int) : Bool :=
    if e < 0 then den ≤ num * Nat.pow 10 (-e).toNat else den * Nat.pow 10 e.toNat ≤ num
  if atLeast (e + 2) then e + 2 else if atLeast (e + 1) then e + 1 else e

/-- **The neighbour of the magnitude on the grid of units `10 ^ g` that reads back as `x`**, if
one does: the nearer of the two, the even one of two equally near. -/
def neighbour? (x : Finite64) (g : Int) : Option Scaled :=
  let (num, den) := x.ratio
  let num := if g < 0 then num * Nat.pow 10 (-g).toNat else num
  let den := if g < 0 then den else den * Nat.pow 10 g.toNat
  let below : Scaled := ⟨num / den, g⟩
  let above : Scaled := ⟨num / den + 1, g⟩
  let readsBack (s : Scaled) : Bool := Binary64.ofScaled x.negative s == .finite x
  (if roundHalfEven num den = num / den then [below, above] else [above, below]).find? readsBack

/-- A neighbour that is found reads back. -/
theorem ofScaled_of_neighbour? {x : Finite64} {g : Int} {s : Scaled}
    (h : x.neighbour? g = some s) : Binary64.ofScaled x.negative s = .finite x := by
  simpa using List.find?_some h

/-- **The shortest decimal number that reads back as `x`.** -/
def shortest (x : Finite64) : Scaled :=
  if x.isZero then ⟨0, 0⟩
  else
    let e := x.decimalExponent
    ((List.range 18).findSome? fun n : Nat => x.neighbour? (e + 1 - n)).getD x.expansion

/-- Whatever is written reads back, unless it is the exact expansion. -/
theorem ofScaled_shortest (x : Finite64) :
    Binary64.ofScaled x.negative x.shortest = .finite x ∨ x.shortest = x.expansion := by
  by_cases hz : x.isZero = true
  · obtain ⟨negative, rank, hr⟩ := x
    simp only [isZero, beq_iff_eq] at hz
    subst hz
    exact .inl (by simp [shortest, isZero, Binary64.ofScaled, Binary64.ofRank])
  · simp only [shortest, hz, Bool.false_eq_true, if_false]
    cases h : (List.range 18).findSome? fun n : Nat => x.neighbour? (x.decimalExponent + 1 - n) with
    | none => exact .inr rfl
    | some s =>
      obtain ⟨n, _, hn⟩ := List.exists_of_findSome?_eq_some h
      exact .inl (ofScaled_of_neighbour? hn)

end Finite64

/-- **How the digits of a number are laid out.** -/
structure NumberLayout where
  /-- Whether a number `d.ddd * 10 ^ e` with this `e` is written without an exponent. -/
  positional : Int → Bool

namespace NumberLayout

/-- Digits with the point after the first `point` of them, zeros filled in on either side as the
point calls for, and at least one digit on either side of it. -/
def withPoint (digits : List Char) (point : Int) : List Char :=
  if point ≤ 0 then "0.".toList ++ List.replicate (-point).toNat '0' ++ digits
  else if digits.length ≤ point.toNat then
    digits ++ List.replicate (point.toNat - digits.length) '0' ++ ".0".toList
  else digits.take point.toNat ++ '.' :: digits.drop point.toNat

/-- One digit, the point and the others where there are others, and the exponent with its sign. -/
def withExponent (digits : List Char) (e : Int) : List Char :=
  let exponent := 'e' :: (if e < 0 then '-' else '+') :: Nat.toDigits 10 e.natAbs
  match digits with
  | d :: rest@(_ :: _) => d :: '.' :: rest ++ exponent
  | _ => digits ++ exponent

end NumberLayout

/-- **The text of a finite number** in a layout: the fewest digits that read back. -/
def Finite64.chars (layout : NumberLayout) (x : Finite64) : List Char :=
  let s := x.shortest
  let digits := Nat.toDigits 10 s.digits
  let e : Int := s.exponent + digits.length - 1
  let magnitude :=
    if layout.positional e then NumberLayout.withPoint digits (e + 1)
    else NumberLayout.withExponent digits e
  if x.negative then '-' :: magnitude else magnitude

end ChartData
