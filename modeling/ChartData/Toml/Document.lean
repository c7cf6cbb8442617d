import ChartData.Toml.Scalar
import ChartData.Toml.Token

/-!
# Settings files: documents

A document is read from its tokens by a machine that knows what may come next (`Toml.Reading`) and
keeps the arrays and inline tables still open around it. One token takes it one step. Whatever is
defined is put into the document at once, under the header in force, so that a name defined twice is
noticed where it is defined the second time.

Arrays run over as many lines as they like, and so do inline tables, only that no line ends within a
dotted key; both may end with a comma. They nest no deeper than `Toml.nestingLimit`.

Words with nothing but blanks between them are taken as one, for a date and a time may be written
like that. Whether the whole stands for anything is for `Toml.ofWord?` to say.
-/

namespace ChartData

namespace Toml

/-- The greatest nesting of arrays and inline tables. -/
def nestingLimit : Nat := 80

/-- **A dotted key being read**: the names before the last dot, latest first, and the name after
it, if that has been read. -/
structure PartialKey where
  /-- The names before the last dot, latest first. -/
  path : List String
  /-- The name after it. -/
  name? : Option String

/-- A key of which nothing has been read. -/
def PartialKey.empty : PartialKey := ⟨[], none⟩

/-- Whether a word may stand in a key without quotes. -/
def isBareKey (cs : List Char) : Bool :=
  !cs.isEmpty && cs.all fun c => c.isAlphanum || c == '_' || c == '-'

/-- **One more token of a key**, if it is one. -/
def PartialKey.push (k : PartialKey) : TomlToken → Option PartialKey
  | .blank _ => some k
  | .dot => k.name?.map fun name => ⟨name :: k.path, none⟩
  | .word cs =>
    if k.name?.isNone ∧ isBareKey cs then some ⟨k.path, some (String.ofList cs)⟩ else none
  | .string s false => if k.name?.isNone then some ⟨k.path, some s⟩ else none
  | _ => none

/-- An array or inline table still open. -/
inductive Frame where
  /-- An array; its items, latest first. -/
  | items (done : List Toml)
  /-- An inline table, and the key whose value is being read. -/
  | entries (done : Entries) (path : List String) (name : String)

/-- **What may come next.** -/
inductive Expecting where
  /-- The beginning of a line: a header, a key, or nothing. -/
  | line
  /-- A header, after one bracket; the second bracket only right away. -/
  | header (key : PartialKey) (first : Bool)
  /-- A header of a list of tables. -/
  | listHeader (key : PartialKey)
  /-- The second closing bracket of such a header. -/
  | listHeaderEnd (path : List String) (name : String)
  /-- Nothing more on this line. -/
  | lineEnd
  /-- A key and the equals sign. -/
  | key (key : PartialKey)
  /-- A value; an array may also close. -/
  | value (around : List Frame)
  /-- More of a word. -/
  | scalar (soFar : List Char) (around : List Frame)
  /-- After a word and blanks: more of the word, or what may follow it. -/
  | afterBlanks (soFar blanks : List Char) (around : List Frame)
  /-- What may follow a value. -/
  | complete (v : Toml) (around : List Frame)
  /-- A key of an inline table, which may also close. -/
  | inlineKey (done : Entries) (key : PartialKey) (around : List Frame)
  /-- The equals sign after a key of an inline table, on a later line. -/
  | inlineEquals (done : Entries) (path : List String) (name : String) (around : List Frame)

/-- **Where the reading of a document stands.** -/
structure Reading where
  /-- What has been defined so far. -/
  document : Entries
  /-- The header in force, none at the beginning. -/
  under : List String
  /-- The key whose value is being read. -/
  path : List String
  /-- The last name of that key. -/
  name : String
  /-- What may come next. -/
  expecting : Expecting

namespace Reading

/-- The beginning of a document. -/
def start : Reading := ⟨[], [], [], "", .line⟩

/-- The document with something else coming next. -/
def expect (r : Reading) (e : Expecting) : Reading := { r with expecting := e }

/-- One more array or inline table is opened, if they do not nest too deep. -/
def enter (r : Reading) (around : List Frame) (e : Expecting) : Option Reading :=
  if around.length < nestingLimit then some (r.expect e) else none

/-- The path and the name of a header that is complete. -/
def openHeader (r : Reading) (path : List String) (name : String) : Option Reading :=
  (openTable path name r.document).map fun document =>
    { r with document, under := path ++ [name], expecting := .lineEnd }

/-- The path and the name of a list header that is complete. -/
def openListHeader (r : Reading) (path : List String) (name : String) : Option Reading :=
  (appendTable path name r.document).map fun document =>
    { r with document, under := path ++ [name], expecting := .lineEnd }

/-- The value of the key at hand. -/
def defineValue (r : Reading) (v : Toml) (e : Expecting) : Option Reading :=
  (defineUnder r.under r.path r.name v r.document).map fun document =>
    { r with document, expecting := e }

/-- The entries of an inline table with one more. -/
def entriesWith (done : Entries) (path : List String) (name : String) (v : Toml) :
    Option Entries :=
  define path name v .inlined done

/-- **What follows a value.** -/
def afterValue (r : Reading) (v : Toml) : List Frame → TomlToken → Option Reading
  | around, .blank _ => some (r.expect (.complete v around))
  | [], .newline => r.defineValue v .line
  | [], _ => none
  | around, .newline => some (r.expect (.complete v around))
  | .items done :: around, .comma => some (r.expect (.value (.items (v :: done) :: around)))
  | .items done :: around, .closeBracket =>
    some (r.expect (.complete (array (v :: done).reverse) around))
  | .entries done path name :: around, .comma =>
    (entriesWith done path name v).map fun es => r.expect (.inlineKey es .empty around)
  | .entries done path name :: around, .closeBrace =>
    (entriesWith done path name v).map fun es => r.expect (.complete (table .inlined es) around)
  | _, _ => none

/-- What follows a word that is complete. -/
def afterWord (r : Reading) (soFar : List Char) (around : List Frame) (t : TomlToken) :
    Option Reading :=
  (ofWord? soFar).bind fun v => r.afterValue v around t

/-- **One token**, or nothing where it does not fit. -/
def step (r : Reading) (t : TomlToken) : Option Reading :=
  match r.expecting with
  | .line =>
    match t with
    | .blank _ | .newline => some r
    | .openBracket => some (r.expect (.header .empty true))
    | _ => (PartialKey.empty.push t).map fun k => r.expect (.key k)
  | .header k first =>
    match t, k.name? with
    | .openBracket, none =>
      if first then some (r.expect (.listHeader .empty)) else none
    | .closeBracket, some name => r.openHeader k.path.reverse name
    | _, _ => (k.push t).map fun k => r.expect (.header k false)
  | .listHeader k =>
    match t, k.name? with
    | .closeBracket, some name => some (r.expect (.listHeaderEnd k.path.reverse name))
    | _, _ => (k.push t).map fun k => r.expect (.listHeader k)
  | .listHeaderEnd path name =>
    match t with
    | .closeBracket => r.openListHeader path name
    | _ => none
  | .lineEnd =>
    match t with
    | .blank _ => some r
    | .newline => some (r.expect .line)
    | _ => none
  | .key k =>
    match t, k.name? with
    | .equals, some name => some { r with path := k.path.reverse, name, expecting := .value [] }
    | _, _ => (k.push t).map fun k => r.expect (.key k)
  | .value around =>
    match t, around with
    | .blank _, _ => some r
    | .newline, _ :: _ => some r
    | .word cs, _ => some (r.expect (.scalar cs around))
    | .string s _, _ => some (r.expect (.complete (string s) around))
    | .openBracket, _ => r.enter around (.value (.items [] :: around))
    | .openBrace, _ => r.enter around (.inlineKey [] .empty around)
    | .closeBracket, .items done :: outer =>
      some (r.expect (.complete (array done.reverse) outer))
    | _, _ => none
  | .scalar cs around =>
    match t with
    | .dot => some (r.expect (.scalar (cs ++ ['.']) around))
    | .word more => some (r.expect (.scalar (cs ++ more) around))
    | .blank c => some (r.expect (.afterBlanks cs [c] around))
    | _ => r.afterWord cs around t
  | .afterBlanks cs blanks around =>
    match t with
    | .blank c => some (r.expect (.afterBlanks cs (blanks ++ [c]) around))
    | .word more => some (r.expect (.scalar (cs ++ blanks ++ more) around))
    | _ => r.afterWord cs around t
  | .complete v around => r.afterValue v around t
  | .inlineKey done k around =>
    match t, k.name? with
    | .equals, some name =>
      some (r.expect (.value (.entries done k.path.reverse name :: around)))
    | .newline, none => if k.path.isEmpty then some r else none
    | .newline, some name => some (r.expect (.inlineEquals done k.path.reverse name around))
    | .closeBrace, none =>
      if k.path.isEmpty then some (r.expect (.complete (table .inlined done) around)) else none
    | _, _ => (k.push t).map fun k => r.expect (.inlineKey done k around)
  | .inlineEquals done path name around =>
    match t with
    | .blank _ | .newline => some r
    | .equals => some (r.expect (.value (.entries done path name :: around)))
    | _ => none

/-- All tokens in turn. -/
def run (r : Reading) (tokens : List TomlToken) : Option Reading := tokens.foldlM step r

end Reading

/-- The document of a sequence of tokens. The last line is ended if it is not. -/
def ofTokens? (tokens : List TomlToken) : Option Entries :=
  match Reading.start.run (tokens ++ [.newline]) with
  | some r =>
    match r.expecting with
    | .line => some r.document
    | _ => none
  | none => none

/-- **The document of a text**, if it is one. A byte order mark in front is passed over. -/
def ofText? (text : String) : Option Toml :=
  let cs := text.toList
  let cs := if cs.head? = some (Char.ofNat 0xFEFF) then cs.drop 1 else cs
  ((TomlToken.scan cs).bind ofTokens?).map (table .header)

end Toml

end ChartData
