import ChartData.Toml.Token

/-!
# Settings files: quoted text

A text can be quoted in four ways, with double or single quotes, tripled or not. Between single
quotes every character means itself, between double quotes a backslash escapes, and between tripled
quotes a text may run over several lines. So most texts can be quoted as they are in one way or
another, and people would rather read them like that.

`Quotes.best` is the first of the four ways, the plainest first, in which nothing has to be escaped;
a tab is not held against any of them. Where there is none, because of a control character or of
quotes of both kinds, the text is escaped between double quotes, tripled if it has several lines.
Tripled quotes start with a line end of their own if lines follow, which a reader drops again.
-/

namespace ChartData

/-- **A way to quote a text.** -/
structure Quotes where
  /-- Whether the quotes are double ones, between which a backslash escapes. -/
  double : Bool
  /-- Whether the quotes are tripled. -/
  tripled : Bool
deriving DecidableEq, Repr

/-- The longest run of a character in a text, given the length of the run just before it. -/
def longestRun (c : Char) (run : Nat) : List Char → Nat
  | [] => run
  | d :: cs => if d = c then longestRun c (run + 1) cs else max run (longestRun c 0 cs)

/-- A digit of a number in base sixteen, in capital letters. -/
def capitalHexDigit (n : Nat) : Char := (Nat.digitChar n).toUpper

/-- **A character between double quotes**, other than a quote: escaped if it is a backslash or a
control. -/
def escapedChar (c : Char) : List Char :=
  if c = '\\' then ['\\', '\\']
  else if c = '\x08' then ['\\', 'b']
  else if c = '\t' then ['\\', 't']
  else if c = '\n' then ['\\', 'n']
  else if c = '\x0c' then ['\\', 'f']
  else if c = '\r' then ['\\', 'r']
  else if TomlToken.isControl c then
    ['\\', 'u', '0', '0', capitalHexDigit (c.toNat / 16), capitalHexDigit (c.toNat % 16)]
  else [c]

namespace Quotes

/-- The four ways, the plainest first. -/
def all : List Quotes := [⟨true, false⟩, ⟨false, false⟩, ⟨true, true⟩, ⟨false, true⟩]

/-- The quote. -/
def char (q : Quotes) : Char := if q.double then '"' else '\''

/-- The quotes on either side. -/
def delimiter (q : Quotes) : List Char := List.replicate (if q.tripled then 3 else 1) q.char

/-- How many quotes in a row the text may have, lest it seem to end. -/
def quotesInside (q : Quotes) : Nat := if q.tripled then 2 else 0

/-- **Whether a text can be quoted in this way as it is.** -/
def suits (q : Quotes) (cs : List Char) : Bool :=
  cs.all (fun c => !TomlToken.isControl c || (c == '\n' && q.tripled)) &&
    (!q.double || !cs.contains '\\') &&
    longestRun q.char 0 cs ≤ q.quotesInside

/-- **The way in which a text is quoted.** -/
def best (cs : List Char) : Quotes :=
  (all.find? (·.suits cs)).getD ⟨true, cs.contains '\n'⟩

/-- A text with escapes, given how many plain quotes come just before it. A quote is escaped if
there would be too many in a row. -/
def escaped (q : Quotes) (before : Nat) : List Char → List Char
  | [] => []
  | c :: cs =>
    if c = '"' then
      if before < q.quotesInside then c :: escaped q (before + 1) cs
      else '\\' :: c :: escaped q 0 cs
    else if c = '\n' ∧ q.tripled then c :: escaped q 0 cs
    else escapedChar c ++ escaped q 0 cs

/-- **A text in its quotes.** -/
def write (q : Quotes) (cs : List Char) : List Char :=
  q.delimiter ++ (if q.tripled && cs.contains '\n' then ['\n'] else []) ++
    (if q.double then q.escaped 0 cs else cs) ++ q.delimiter

end Quotes

/-- **A quoted text.** -/
def quotedText (s : String) : String :=
  let cs := s.toList
  String.ofList ((Quotes.best cs).write cs)

end ChartData
