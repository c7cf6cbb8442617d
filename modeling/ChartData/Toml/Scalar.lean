import ChartData.Calendar.Date
import ChartData.Text.Fields
import ChartData.Toml.Value

/-!
# Settings files: numbers, truth values and dates

What a word without quotes stands for. Integers may be written in four bases and with underscores
between digits; a decimal one has no idle leading zero. A floating-point number has digits on both
sides of its point. Dates and times are checked against the calendar and the clock; no setting is a
date, so nothing else is kept of them.

Whether a word is written like a number is one question, and which number it is another, asked only
when the number is wanted. A word that passes the first and fails the second is `Toml.unreadable`:
an integer beyond 128 bits, a floating-point number beyond all of them, a base with no digits. The
first question is asked of decimal integers with underscores in a lenient way, by what stands next
to the underscores alone; so `1_f` is written like a number too, and is none.
-/

namespace ChartData

namespace Toml

/-! ## Numbers -/

/-- The range of integers that can be represented: 128 bits, signed or unsigned. -/
def inIntegerRange (n : Int) : Bool :=
  -0x80000000000000000000000000000000 ≤ n && n < 0x100000000000000000000000000000000

/-- The integer that the digits of a base spell, underscores passed over. -/
def integerOfDigits (negative : Bool) (base : Nat) (cs : List Char) : Toml :=
  match cs.filter (· != '_') with
  | [] => unreadable
  | digits =>
    match valueInBase? base digits with
    | some n =>
      let n : Int := if negative then -n else n
      if inIntegerRange n then integer n else unreadable
    | none => unreadable

/-- Whether each underscore stands between two characters that pass. -/
def underscoresBetween (isDigit : Char → Bool) (cs : List Char) : Bool :=
  let parts := fieldsAt (· == '_') cs
  parts.dropLast.all (fun part => part.getLast?.any isDigit) &&
    (parts.drop 1).all (fun part => part.head?.any isDigit)

/-- Whether a character is a digit of a base. -/
def isDigitOf (base : Nat) (c : Char) : Bool := (digitValue? base c).isSome

/-- A number in a base other than ten, its prefix gone. -/
def prefixedNumber (base : Nat) (cs : List Char) : Option Toml :=
  if cs.all (fun c => isDigitOf base c || c == '_') && underscoresBetween (isDigitOf 16) cs then
    some (integerOfDigits false base cs)
  else none

/-- A floating-point number. -/
def floatingNumber (cs : List Char) : Option Toml :=
  if !underscoresBetween Char.isDigit cs then none else
  match Numeral.ofChars? (cs.filter (· != '_')) with
  | none => none
  | some n =>
    if !n.wholeIsPlain || !n.fractionHasDigits || !n.exponentHasDigits then none
    else
      match Binary64.ofScaled n.isNegative n.scaled with
      | .finite x => some (real (.finite x))
      | _ => some unreadable

/-- **A number in base ten**, its sign apart: digits alone, digits with a point or an exponent, or
digits with underscores. -/
def decimalNumber (negative : Bool) (cs : List Char) : Option Toml :=
  let plain : Bool := cs.head?.any Char.isDigit
  let noLeadingZero : Bool := cs.head? != some '0' || cs.length == 1
  let rest := cs.dropWhile Char.isDigit
  if !plain || rest.contains ' ' then none
  else if rest.any fun c => c == '.' || c == 'e' || c == 'E' then
    floatingNumber (if negative then '-' :: cs else cs)
  else if noLeadingZero &&
      (rest.isEmpty || (rest.head? == some '_' && underscoresBetween (isDigitOf 16) cs)) then
    some (integerOfDigits negative 10 cs)
  else none

/-- A number in any base, or one of the words for infinity and not-a-number. -/
def number (cs : List Char) : Option Toml :=
  match cs with
  | '0' :: 'x' :: rest => prefixedNumber 16 rest
  | '0' :: 'o' :: rest => prefixedNumber 8 rest
  | '0' :: 'b' :: rest => prefixedNumber 2 rest
  | _ =>
    let (sign, word) := Numeral.takeSign cs
    let negative := sign == some '-'
    if word = "inf".toList then some (real (.infinite negative))
    else if word = "nan".toList then some (real .nan)
    else decimalNumber negative word

/-! ## Dates and times -/

/-- The value of a numeral of the given width. -/
def fixedNumeral (width : Nat) (cs : List Char) : Option Nat :=
  if allDigits cs && cs.length == width then some (numeralValue cs) else none

/-- Whether a text is a date: ten characters, and the calendar has it. -/
def isDate (cs : List Char) : Bool :=
  match fieldsAt (· == '-') cs with
  | [y, m, d] =>
    match fixedNumeral 4 y, fixedNumeral 2 m, fixedNumeral 2 d with
    | some y, some m, some d => (Date.ofFields? y m d).isSome
    | _, _, _ => false
  | _ => false

/-- Whether the fields of a clock are in range; the last minute of a day may have a sixty-first
second. -/
def isClock (fields : List (List Char)) : Bool :=
  match fields.mapM (fixedNumeral 2) with
  | some [h, m] => h < 24 && m < 60
  | some [h, m, s] => h < 24 && m < 60 && s ≤ 60
  | _ => false

/-- Whether a text is a time of day; a fraction needs seconds to be a fraction of. -/
def isTime (cs : List Char) : Bool :=
  match cutAtFirst '.' cs with
  | none => isClock (fieldsAt (· == ':') cs)
  | some (clock, fraction) =>
    let fields := fieldsAt (· == ':') clock
    allDigits fraction && fields.length == 3 && isClock fields

/-- Whether a text is a distance from UTC: a `Z`, or a sign, hours and minutes. -/
def isOffset : List Char → Bool
  | ['Z'] | ['z'] => true
  | '+' :: cs | '-' :: cs =>
    let fields := fieldsAt (· == ':') cs
    fields.length == 2 && isClock fields
  | _ => false

/-- Whether a text is a time of day and, if there is more, a distance from UTC. -/
def isTimeWithOffset (cs : List Char) : Bool :=
  let isOffsetStart (c : Char) : Bool := c == 'Z' || c == 'z' || c == '+' || c == '-'
  isTime (cs.takeWhile (!isOffsetStart ·)) &&
    (let rest := cs.dropWhile (!isOffsetStart ·)
     rest.isEmpty || isOffset rest)

/-- Whether a text is a date, a time, or a date and a time. -/
def isDateTime (cs : List Char) : Bool :=
  isDate cs || isTime cs ||
    (isDate (cs.take 10) &&
      match cs.drop 10 with
      | sep :: time => (sep == 'T' || sep == 't' || sep == ' ') && isTimeWithOffset time
      | [] => false)

/-- **The value that a word stands for**, if it stands for one. -/
def ofWord? (cs : List Char) : Option Toml :=
  if cs = "true".toList then some (boolean true)
  else if cs = "false".toList then some (boolean false)
  else if isDateTime cs then some dateTime
  else number cs

end Toml

end ChartData
