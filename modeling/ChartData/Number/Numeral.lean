import ChartData.Text.Digits

/-!
# Numerals with a point and an exponent

A number in a text has at most four parts: a sign, the digits before the point, the digits after
it, and an exponent with a sign of its own. `Numeral.ofChars?` takes a text apart into them and
judges nothing: which parts may be missing, and whether a leading zero is welcome, differs from
format to format, and each format says so with a test of its own on the parts.

`Numeral.scaled` is the value: a whole number of units `10 ^ exponent`.
-/

namespace ChartData

/-- **The parts of a number as written.** -/
structure Numeral where
  /-- The sign in front, if one is written. -/
  sign : Option Char
  /-- The digits before the point. -/
  whole : List Char
  /-- The digits after the point, if there is a point. -/
  fraction : Option (List Char)
  /-- The sign and the digits of the exponent, if there is one. -/
  exponent : Option (Option Char × List Char)

/-- A magnitude in units of a power of ten: `digits * 10 ^ exponent`. -/
structure Scaled where
  /-- How many units. -/
  digits : Nat
  /-- The power of ten that is one unit. -/
  exponent : Int
deriving DecidableEq, Repr

namespace Numeral

/-- A leading `+` or `-`, and what follows it. -/
def takeSign : List Char → Option Char × List Char
  | '+' :: cs => (some '+', cs)
  | '-' :: cs => (some '-', cs)
  | cs => (none, cs)

/-- **The parts of a text**, or nothing where something is left over. -/
def ofChars? (cs : List Char) : Option Numeral :=
  let (sign, cs) := takeSign cs
  let whole := cs.takeWhile Char.isDigit
  let cs := cs.dropWhile Char.isDigit
  let (fraction, cs) :=
    match cs with
    | '.' :: cs => (some (cs.takeWhile Char.isDigit), cs.dropWhile Char.isDigit)
    | cs => (none, cs)
  match cs with
  | [] => some ⟨sign, whole, fraction, none⟩
  | e :: cs =>
    let (expSign, digits) := takeSign cs
    if (e == 'e' || e == 'E') && digits.all Char.isDigit then
      some ⟨sign, whole, fraction, some (expSign, digits)⟩
    else none

/-- Whether the number is written with a minus sign. -/
def isNegative (n : Numeral) : Bool := n.sign == some '-'

/-- Whether nothing but digits and a sign is written: no point, no exponent. -/
def isWhole (n : Numeral) : Bool := n.fraction.isNone && n.exponent.isNone

/-- Whether an exponent, where there is one, has digits. -/
def exponentHasDigits (n : Numeral) : Bool := n.exponent.all fun (_, ds) => !ds.isEmpty

/-- Whether a fraction, where there is a point, has digits. -/
def fractionHasDigits (n : Numeral) : Bool := n.fraction.all fun ds => !ds.isEmpty

/-- Whether the digits before the point are there and start with no idle zero. -/
def wholeIsPlain (n : Numeral) : Bool :=
  match n.whole with
  | [] => false
  | ['0'] => true
  | c :: _ => c != '0'

/-- The exponent as a number; zero where none is written. -/
def exponentValue (n : Numeral) : Int :=
  match n.exponent with
  | some (some '-', ds) => -(numeralValue ds : Int)
  | some (_, ds) => numeralValue ds
  | none => 0

/-- **The magnitude**, the sign left out: every digit before and after the point counts units of
the last place. -/
def scaled (n : Numeral) : Scaled :=
  let fraction := n.fraction.getD []
  ⟨numeralValue (n.whole ++ fraction), n.exponentValue - fraction.length⟩

end Numeral

end ChartData
