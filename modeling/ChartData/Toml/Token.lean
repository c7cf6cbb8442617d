import ChartData.Text.Digits
import ChartData.Text.Scanner

/-!
# Settings files: tokens

The text of a settings file is read one character at a time into tokens. Blanks and line ends are
tokens, since they matter in places, and comments are not. A word is what stands without quotes,
whatever it may mean where it stands; dots are tokens of their own. Any character but these and the
marks of the notation continues a word, so a quote that comes after the first character is part of
the word.

Strings come in four kinds, by the quote and by whether it is tripled. Between double quotes a
backslash escapes; tripled quotes let a string run over several lines, drop a line end right after
the opening, and may have up to two quotes right before the closing. Strings and comments admit no
controls other than the tab, and a carriage return is admitted only before a line feed.
-/

namespace ChartData

/-- **A token of a settings file.** -/
inductive TomlToken where
  /-- A dot. -/
  | dot
  /-- An equals sign. -/
  | equals
  /-- A comma. -/
  | comma
  /-- An opening bracket. -/
  | openBracket
  /-- A closing bracket. -/
  | closeBracket
  /-- An opening brace. -/
  | openBrace
  /-- A closing brace. -/
  | closeBrace
  /-- A space or a tab. -/
  | blank (c : Char)
  /-- The end of a line. -/
  | newline
  /-- A word without quotes. -/
  | word (cs : List Char)
  /-- A string, and whether its quotes are tripled. -/
  | string (value : String) (tripled : Bool)
deriving DecidableEq

namespace TomlToken

/-- Which string an escape is in: one between single or tripled double quotes. -/
abbrev Tripled := Bool

/-- **A token being read.** -/
inductive Partial where
  /-- No token has been begun. -/
  | between
  /-- In a comment. -/
  | comment
  /-- In a word; the characters so far, latest first. -/
  | word (soFar : List Char)
  /-- After one or two opening quotes. -/
  | opening (quote : Char) (two : Bool)
  /-- In a string on one line; the characters so far, latest first. -/
  | short (quote : Char) (soFar : List Char)
  /-- Right after three opening quotes. -/
  | longStart (quote : Char)
  /-- In a string over several lines; the characters so far, latest first, and the number of
  quotes just read. -/
  | long (quote : Char) (soFar : List Char) (quotes : Nat)
  /-- After a backslash. -/
  | escape (tripled : Tripled) (soFar : List Char)
  /-- In the digits of a character's number: how many are still to come, and their value so far. -/
  | code (tripled : Tripled) (soFar : List Char) (left value : Nat)
  /-- After a backslash at the end of a line: blanks are passed over, and once the line end has been
  read, line ends too. -/
  | joining (soFar : List Char) (lineEnded : Bool)
deriving DecidableEq

/-- Controls that strings and comments may not contain. -/
def isControl (c : Char) : Bool := (c.toNat < 32 && c != '\t') || c.toNat == 127

/-- Whether a character ends a word. -/
def endsWord (c : Char) : Bool :=
  ".=,[]\x7b\x7d \t\n\r#".toList.contains c

/-- What a character is where no token has been begun. -/
def begin (c : Char) : Option (List TomlToken × Partial) :=
  match c with
  | '.' => some ([dot], .between)
  | '=' => some ([equals], .between)
  | ',' => some ([comma], .between)
  | '[' => some ([openBracket], .between)
  | ']' => some ([closeBracket], .between)
  | '\x7b' => some ([openBrace], .between)
  | '\x7d' => some ([closeBrace], .between)
  | '\n' => some ([newline], .between)
  | '\r' => some ([], .between)
  | '#' => some ([], .comment)
  | '"' => some ([], .opening '"' false)
  | '\'' => some ([], .opening '\'' false)
  | _ =>
    if c = ' ' ∨ c = '\t' then some ([blank c], .between)
    else some ([], .word [c])

/-- The string of characters read, latest first. -/
def stringOf (soFar : List Char) (tripled : Bool) : TomlToken :=
  string (String.ofList soFar.reverse) tripled

/-- A character in a string on one line. -/
def stepShort (quote : Char) (soFar : List Char) (c : Char) : Option (List TomlToken × Partial) :=
  if c = quote then some ([stringOf soFar false], .between)
  else if c = '\\' ∧ quote = '"' then some ([], .escape false soFar)
  else if isControl c then none
  else some ([], .short quote (c :: soFar))

/-- A character in a string over several lines. Three quotes close it; of up to five in a row the
last three do. -/
def stepLong (quote : Char) (soFar : List Char) (quotes : Nat) (c : Char) :
    Option (List TomlToken × Partial) :=
  if c = quote ∧ quotes < 5 then some ([], .long quote soFar (quotes + 1))
  else if 3 ≤ quotes then
    (begin c).map fun (tokens, next) =>
      (stringOf (List.replicate (quotes - 3) quote ++ soFar) true :: tokens, next)
  else
    let soFar := List.replicate quotes quote ++ soFar
    if c = '\\' ∧ quote = '"' then some ([], .escape true soFar)
    else if isControl c && c != '\n' && c != '\r' then none
    else some ([], .long quote (c :: soFar) 0)

/-- Back in the string that an escape was in. -/
def resume (tripled : Tripled) (soFar : List Char) : Partial :=
  if tripled then .long '"' soFar 0 else .short '"' soFar

/-- The character with a number, if there is one. -/
def charOfCode? (n : Nat) : Option Char :=
  if n < 0xD800 ∨ (0xDFFF < n ∧ n < 0x110000) then some (Char.ofNat n) else none

/-- A character after a backslash. -/
def stepEscape (tripled : Tripled) (soFar : List Char) (c : Char) :
    Option (List TomlToken × Partial) :=
  let back (d : Char) : Option (List TomlToken × Partial) := some ([], resume tripled (d :: soFar))
  match c with
  | 'b' => back '\x08'
  | 't' => back '\t'
  | 'n' => back '\n'
  | 'f' => back '\x0c'
  | 'r' => back '\r'
  | 'e' => back '\x1b'
  | '"' => back '"'
  | '\\' => back '\\'
  | 'x' => some ([], .code tripled soFar 2 0)
  | 'u' => some ([], .code tripled soFar 4 0)
  | 'U' => some ([], .code tripled soFar 8 0)
  | '\n' => if tripled then some ([], .joining soFar true) else none
  | ' ' | '\t' | '\r' => if tripled then some ([], .joining soFar false) else none
  | _ => none

/-- **One character**: the tokens it completes and the token it leaves begun. -/
def step (state : Partial) (c : Char) : Option (List TomlToken × Partial) :=
  match state with
  | .between => begin c
  | .comment =>
    if c = '\n' then some ([newline], .between)
    else if isControl c && c != '\r' then none
    else some ([], .comment)
  | .word cs =>
    if endsWord c then (begin c).map fun (tokens, next) => (word cs.reverse :: tokens, next)
    else some ([], .word (c :: cs))
  | .opening quote false =>
    if c = quote then some ([], .opening quote true) else stepShort quote [] c
  | .opening quote true =>
    if c = quote then some ([], .longStart quote)
    else (begin c).map fun (tokens, next) => (string "" false :: tokens, next)
  | .short quote soFar => stepShort quote soFar c
  | .longStart quote =>
    if c = '\n' then some ([], .long quote [] 0)
    else if c = '\r' then some ([], .longStart quote)
    else stepLong quote [] 0 c
  | .long quote soFar quotes => stepLong quote soFar quotes c
  | .escape tripled soFar => stepEscape tripled soFar c
  | .code tripled soFar left value =>
    match digitValue? 16 c with
    | none => none
    | some d =>
      if left ≤ 1 then
        (charOfCode? (16 * value + d)).map fun c => ([], resume tripled (c :: soFar))
      else some ([], .code tripled soFar (left - 1) (16 * value + d))
  | .joining soFar lineEnded =>
    if c = '\n' then some ([], .joining soFar true)
    else if c = ' ' ∨ c = '\t' ∨ c = '\r' then some ([], .joining soFar lineEnded)
    else if lineEnded then stepLong '"' soFar 0 c
    else none

/-- What the end of the text makes of the token at hand. -/
def finish : Partial → Option (List TomlToken)
  | .between | .comment => some []
  | .word cs => some [word cs.reverse]
  | .opening _ true => some [string "" false]
  | .long quote soFar quotes =>
    if 3 ≤ quotes then some [stringOf (List.replicate (quotes - 3) quote ++ soFar) true] else none
  | _ => none

/-- The scanner of settings files. -/
@[reducible] def scanner : Scanner Partial TomlToken := ⟨step, finish⟩

/-- Whether each carriage return stands before a line feed. -/
def returnsAreLineEnds : List Char → Bool
  | [] => true
  | '\r' :: rest => rest.head? == some '\n' && returnsAreLineEnds rest
  | _ :: rest => returnsAreLineEnds rest

/-- **The tokens of a text.** -/
def scan (cs : List Char) : Option (List TomlToken) :=
  if returnsAreLineEnds cs then scanner.scanFrom .between cs else none

end TomlToken

end ChartData
