import ChartData.Json.Token

/-!
# Data as text

A value is written without blanks, as the tokens of it in order (`Json.tokens`, `Json.text`), and
read back from the tokens by a machine that keeps the arrays and objects still open
(`Json.Reading`). One token takes the machine one step, so a text of any nesting is read in one
pass over its tokens, and nothing bounds the nesting here.

The law that ties the two together is one equation: from a place where a value may come, the tokens
of a value followed by others take the machine to where the value has been read, with those others
still to come.
-/

namespace ChartData

namespace Json

/-! ## Writing -/

mutual

/-- **The tokens of a value.** -/
def tokens : Json → List Token
  | null => [.null]
  | bool b => [.bool b]
  | number n => [.number (some n)]
  | string s => [.string (some s)]
  | array items => .openArray :: itemTokens items
  | object entries => .openObject :: entryTokens entries
  | unreadable => [.number none]

/-- The items, each after the first behind a comma, and the closing bracket. -/
def itemTokens : List Json → List Token
  | [] => [.closeArray]
  | item :: rest => tokens item ++ laterItemTokens rest

/-- The items behind a comma each, and the closing bracket. -/
def laterItemTokens : List Json → List Token
  | [] => [.closeArray]
  | item :: rest => .comma :: (tokens item ++ laterItemTokens rest)

/-- The entries, each after the first behind a comma, and the closing brace. -/
def entryTokens : List (String × Json) → List Token
  | [] => [.closeObject]
  | (name, value) :: rest =>
    .string (some name) :: .colon :: (tokens value ++ laterEntryTokens rest)

/-- The entries behind a comma each, and the closing brace. -/
def laterEntryTokens : List (String × Json) → List Token
  | [] => [.closeObject]
  | (name, value) :: rest =>
    .comma :: .string (some name) :: .colon :: (tokens value ++ laterEntryTokens rest)

end

/-- **The text of a value**, without blanks. -/
def text (j : Json) : String := String.ofList (j.tokens.flatMap Token.chars)

/-! ## Reading -/

/-- An array or object still open: what it holds so far, latest first, and for an object the name
whose value is being read. -/
inductive Frame where
  /-- An array and its items so far. -/
  | items (done : List Json)
  /-- An object, its entries so far, and the name at hand. -/
  | entries (done : List (Option String × Json)) (name : Option String)

/-- **Where the reading of a text stands.** -/
inductive Reading where
  /-- A value comes next; right after an opening bracket the array may also close. -/
  | value (around : List Frame) (mayClose : Bool)
  /-- A name comes next; right after an opening brace the object may also close. -/
  | name (done : List (Option String × Json)) (around : List Frame) (mayClose : Bool)
  /-- A colon comes next. -/
  | colon (done : List (Option String × Json)) (name : Option String) (around : List Frame)
  /-- A value is complete. -/
  | complete (value : Json) (around : List Frame)

/-- The object with the given entries, latest first. A name without a value spoils it. -/
def ofEntries (entries : List (Option String × Json)) : Json :=
  match entries.reverse.mapM fun (name, value) => name.map fun n => (n, value) with
  | some entries => object entries
  | none => unreadable

/-- The value that a token is on its own, if it is one. -/
def ofToken? : Token → Option Json
  | .null => some null
  | .bool b => some (bool b)
  | .number n => some ((n.map number).getD unreadable)
  | .string s => some ((s.map string).getD unreadable)
  | _ => none

/-- **One token**, or nothing where it does not fit. -/
def Reading.step : Reading → Token → Option Reading
  | .value around _, .openArray => some (.value (.items [] :: around) true)
  | .value around _, .openObject => some (.name [] around true)
  | .value (.items [] :: around) true, .closeArray => some (.complete (array []) around)
  | .value around _, token => (ofToken? token).map (.complete · around)
  | .name done around _, .string s => some (.colon done s around)
  | .name _ around true, .closeObject => some (.complete (object []) around)
  | .colon done key around, .colon => some (.value (.entries done key :: around) false)
  | .complete v (.items done :: around), .comma =>
    some (.value (.items (v :: done) :: around) false)
  | .complete v (.items done :: around), .closeArray =>
    some (.complete (array (v :: done).reverse) around)
  | .complete v (.entries done key :: around), .comma =>
    some (.name ((key, v) :: done) around false)
  | .complete v (.entries done key :: around), .closeObject =>
    some (.complete (ofEntries ((key, v) :: done)) around)
  | _, _ => none

/-- All tokens in turn. -/
def Reading.run (state : Reading) (tokens : List Token) : Option Reading :=
  tokens.foldlM Reading.step state

/-- The value of a sequence of tokens, if they are the tokens of one value. -/
def ofTokens? (tokens : List Token) : Option Json :=
  match (Reading.value [] false).run tokens with
  | some (.complete v []) => some v
  | _ => none

/-- **The value of a text**, if the text is well formed. -/
def ofText? (text : String) : Option Json :=
  (Token.scan text.toList).bind ofTokens?

end Json

end ChartData
