import ChartData.Json.Basic
import ChartData.Number.Shortest
import ChartData.Number.Stepwise
import ChartData.Text.Scanner

/-!
# Tokens of data text

A data text is a sequence of brackets, commas, colons, strings, numbers and words, with blanks
between them. `Token.scan` reads the sequence, one character at a time: what has been read of the
token at hand is the `Partial` token, and a character either extends it, ends it, or fits nowhere.
`Token.chars` writes a token.

Strings admit every character but the controls below the space, which have to be escaped, as have
the quote and the backslash. A `\u` escape denotes a UTF-16 unit; two of them may make a surrogate
pair, and half a pair denotes nothing, which leaves the string without a value (`none`). A number
has no idle leading zero, and digits on both sides of its point. An integer beyond 64 bits becomes a
floating-point number, floating-point numbers are read in steps (`Numeral.inSteps?`), and a number
beyond all of them has no value.
-/

namespace ChartData

/-- **A token of a data text.** -/
inductive Token where
  /-- The opening bracket of an array. -/
  | openArray
  /-- The closing bracket of an array. -/
  | closeArray
  /-- The opening brace of an object. -/
  | openObject
  /-- The closing brace of an object. -/
  | closeObject
  /-- A comma. -/
  | comma
  /-- A colon. -/
  | colon
  /-- A string; no value if it has half a surrogate pair. -/
  | string (value : Option String)
  /-- A number; no value if it is beyond every floating-point number. -/
  | number (value : Option JsonNumber)
  /-- A truth value. -/
  | bool (value : Bool)
  /-- The absent value. -/
  | null
deriving DecidableEq

namespace Token

/-- **The layout of numbers in data**: written out from `10 ^ -5` up to below `10 ^ 16`. -/
def numberLayout : NumberLayout := ⟨fun e => -5 ≤ e && e < 16⟩

/-! ## Writing -/

/-- The escape of a control character that has no letter of its own. -/
def controlEscape (c : Char) : List Char :=
  '\\' :: 'u' :: '0' :: '0' :: [Nat.digitChar (c.toNat / 16), Nat.digitChar (c.toNat % 16)]

/-- **A character of a string**: escaped if it is a quote, a backslash or a control. -/
def stringChar (c : Char) : List Char :=
  if c = '"' then ['\\', '"']
  else if c = '\\' then ['\\', '\\']
  else if c = '\n' then ['\\', 'n']
  else if c = '\r' then ['\\', 'r']
  else if c = '\t' then ['\\', 't']
  else if c = '\x08' then ['\\', 'b']
  else if c = '\x0c' then ['\\', 'f']
  else if c.toNat < 32 then controlEscape c
  else [c]

/-- A string between quotes. -/
def quoted (s : String) : List Char :=
  '"' :: s.toList.flatMap stringChar ++ ['"']

/-- A number: an integer by its digits, a floating-point number by the fewest that read back. -/
def numberChars : JsonNumber → List Char
  | .integer n _ => integerDigits n
  | .real x => x.chars numberLayout

/-- **The text of a token.** A leaf without a value is written as the absent value. -/
def chars : Token → List Char
  | openArray => ['[']
  | closeArray => [']']
  | openObject => ['\x7b']
  | closeObject => ['\x7d']
  | comma => [',']
  | colon => [':']
  | string (some s) => quoted s
  | number (some n) => numberChars n
  | bool true => "true".toList
  | bool false => "false".toList
  | _ => "null".toList

/-! ## Reading numbers and words -/

/-- **The number that a text spells**: nothing if it spells none, and no value if the value is
beyond every floating-point number. An integer that is no integer of 64 bits is a floating-point
number, and so is minus zero. -/
def readNumber (cs : List Char) : Option (Option JsonNumber) :=
  match Numeral.ofChars? cs with
  | none => none
  | some n =>
    if n.sign == some '+' || !n.wholeIsPlain || !n.fractionHasDigits || !n.exponentHasDigits then
      none
    else
      let value := numeralValue n.whole
      let integer? : Option JsonNumber :=
        if n.isWhole && !(n.isNegative && value == 0) then
          JsonNumber.ofInt (if n.isNegative then -value else value)
        else none
      some (integer?.or (n.inSteps?.map .real))

/-- The token that a word is. -/
def readWord (cs : List Char) : Option Token :=
  if cs = "true".toList then some (bool true)
  else if cs = "false".toList then some (bool false)
  else if cs = "null".toList then some null
  else none

/-! ## Reading strings -/

/-- **A string being read**: the characters so far, latest first, unless half a surrogate pair has
already spoilt it, and the first half of a pair that still waits for the second. -/
structure PartialString where
  /-- The characters so far, latest first. -/
  done : Option (List Char)
  /-- The first half of a surrogate pair, if one was just read. -/
  high : Option Nat
deriving DecidableEq

namespace PartialString

/-- The string before its first character. -/
def empty : PartialString := ⟨some [], none⟩

/-- The string and one more character. A waiting half is spoilt. -/
def push (p : PartialString) (c : Char) : PartialString :=
  match p.high with
  | none => ⟨p.done.map (c :: ·), none⟩
  | some _ => ⟨none, none⟩

/-- The string and one more UTF-16 unit. -/
def pushUnit (p : PartialString) (unit : Nat) : PartialString :=
  match p.high with
  | some high =>
    if 0xDC00 ≤ unit ∧ unit ≤ 0xDFFF then
      ⟨p.done.map (Char.ofNat (0x10000 + (high - 0xD800) * 0x400 + (unit - 0xDC00)) :: ·), none⟩
    else ⟨none, none⟩
  | none =>
    if 0xD800 ≤ unit ∧ unit ≤ 0xDBFF then ⟨p.done, some unit⟩
    else if 0xDC00 ≤ unit ∧ unit ≤ 0xDFFF then ⟨none, none⟩
    else p.push (Char.ofNat unit)

/-- The string that has been read, if it is sound. -/
def finish (p : PartialString) : Option String :=
  match p.high with
  | none => p.done.map fun cs => String.ofList cs.reverse
  | some _ => none

end PartialString

/-- The character that a one-letter escape denotes. -/
def escaped? (c : Char) : Option Char :=
  match c with
  | '"' => some '"'
  | '\\' => some '\\'
  | '/' => some '/'
  | 'b' => some '\x08'
  | 'f' => some '\x0c'
  | 'n' => some '\n'
  | 'r' => some '\r'
  | 't' => some '\t'
  | _ => none

/-! ## The scanner -/

/-- **A token being read.** -/
inductive Partial where
  /-- No token has been begun. -/
  | between
  /-- Inside a string. -/
  | text (soFar : PartialString)
  /-- After a backslash in a string. -/
  | escape (soFar : PartialString)
  /-- In the digits of a UTF-16 unit: how many are still to come, and their value so far. -/
  | unit (soFar : PartialString) (left value : Nat)
  /-- In a number; the characters so far, latest first. -/
  | numeral (soFar : List Char)
  /-- In a word; the characters so far, latest first. -/
  | word (soFar : List Char)
deriving DecidableEq

/-- Blanks between tokens. -/
def isSpace (c : Char) : Bool := c == ' ' || c == '\t' || c == '\n' || c == '\r'

/-- Characters that numbers are written with. -/
def isNumeralChar (c : Char) : Bool :=
  c.isDigit || c == '-' || c == '+' || c == '.' || c == 'e' || c == 'E'

/-- What a character is where no token has been begun: the tokens it completes and the token it
begins. -/
def begin (c : Char) : Option (List Token × Partial) :=
  if isSpace c then some ([], .between)
  else if c = '"' then some ([], .text .empty)
  else if c.isDigit || c == '-' then some ([], .numeral [c])
  else if c.isLower then some ([], .word [c])
  else
    match c with
    | '[' => some ([openArray], .between)
    | ']' => some ([closeArray], .between)
    | '\x7b' => some ([openObject], .between)
    | '\x7d' => some ([closeObject], .between)
    | ',' => some ([comma], .between)
    | ':' => some ([colon], .between)
    | _ => none

/-- **One character**: the tokens it completes and the token it leaves begun. -/
def step (state : Partial) (c : Char) : Option (List Token × Partial) :=
  match state with
  | .between => begin c
  | .text p =>
    if c = '"' then some ([string p.finish], .between)
    else if c = '\\' then some ([], .escape p)
    else if c.toNat < 32 then none
    else some ([], .text (p.push c))
  | .escape p =>
    if c = 'u' then some ([], .unit p 4 0)
    else (escaped? c).map fun d => ([], .text (p.push d))
  | .unit p left value =>
    (digitValue? 16 c).map fun d =>
      if left ≤ 1 then ([], .text (p.pushUnit (16 * value + d)))
      else ([], .unit p (left - 1) (16 * value + d))
  | .numeral cs =>
    if isNumeralChar c then some ([], .numeral (c :: cs))
    else
      match readNumber cs.reverse, begin c with
      | some n, some (tokens, next) => some (number n :: tokens, next)
      | _, _ => none
  | .word cs =>
    if c.isLower then some ([], .word (c :: cs))
    else
      match readWord cs.reverse, begin c with
      | some w, some (tokens, next) => some (w :: tokens, next)
      | _, _ => none

/-- What the end of the text makes of the token at hand. -/
def finish : Partial → Option (List Token)
  | .between => some []
  | .numeral cs => (readNumber cs.reverse).map fun n => [number n]
  | .word cs => (readWord cs.reverse).map fun w => [w]
  | _ => none

/-- The scanner of data texts. -/
@[reducible] def scanner : Scanner Partial Token := ⟨step, finish⟩

/-- **The tokens of a text.** -/
def scan (cs : List Char) : Option (List Token) := scanner.scanFrom .between cs

end Token

end ChartData
