import ChartData.Query.Basic
import ChartData.Settings.Basic
import ChartData.Text.Fields
import ChartData.Text.Blank

/-!
# Checking queries

Names, expressions and join conditions are written into a statement as they stand, so before a query
is sent they are looked at. A *name* consists of letters, digits, underscores, stars and single dots
between them (`isName`). A *fragment* – an expression, a join condition, a condition on groups – is
not blank, contains no sequence that ends a statement or hides part of it, and no word that changes
data or tables (`fragmentFault?`). Limits lie between one and the greatest that the settings allow.

`Query.objections` lists everything that is wrong with a query: first what is wrong with the named
query in front of it, its name included, then its own clauses in their order.
-/

namespace ChartData

/-! ## Names -/

/-- The characters of words: ASCII letters, digits and the underscore. -/
def isWordChar (c : Char) : Bool := c.isAlphanum || c == '_'

/-- The characters of names: those of words, the star and the dot. -/
def isNameChar (c : Char) : Bool := isWordChar c || c == '.' || c == '*'

/-- **Whether a text occurs in another.** -/
def occursIn (needle : List Char) : List Char → Bool
  | [] => needle.isEmpty
  | c :: cs => needle.isPrefixOf (c :: cs) || occursIn needle cs

/-- **Whether a text is a name.** It has no dot at either end and no two dots in a row. -/
def isName (s : String) : Bool :=
  let cs := s.toList
  !cs.isEmpty && cs.all isNameChar && cs.head? != some '.' && cs.getLast? != some '.' &&
    !occursIn ['.', '.'] cs

/-! ## Fragments -/

/-- The words that change data or tables. -/
def changingWords : List String :=
  ["alter", "attach", "create", "delete", "detach", "drop", "grant", "insert", "rename", "revoke",
    "truncate", "update"]

/-- The sequences that end a statement or hide part of it. -/
def breakingSequences : List String := [";", "--", "/*", "*/"]

/-- **The words of a text**, in small letters: the stretches between other characters. -/
def wordsOf (cs : List Char) : List String :=
  (fieldsAt (fun c => !isWordChar c) (cs.map Char.toLower)).map String.ofList

/-- **What is wrong with a fragment**, if anything is. -/
def fragmentFault? (s : String) : Option FragmentFault :=
  let cs := s.toList
  if (trimmed cs).isEmpty then some .blank
  else
    match breakingSequences.find? fun d => occursIn d.toList cs with
    | some d => some (.sequence d)
    | none => ((wordsOf cs).find? changingWords.contains).map .keyword

/-! ## Objections -/

/-- The objection to a text that should be a name. -/
def nameObjections (s : String) : List Error :=
  if isName s then [] else [.improperName s]

/-- The objection to a text that should be a harmless fragment. -/
def fragmentObjections (s : String) : List Error :=
  ((fragmentFault? s).map (.improperFragment s)).toList

namespace Column

/-- The objections to a column: its name, its other name, distinct values without aggregation. -/
def objections (c : Column) : List Error :=
  nameObjections c.name ++ c.alias?.toList.flatMap nameObjections ++
    (if c.isMisplacedDistinct then [.distinctWithoutAggregation c.name] else [])

end Column

/-- The objections to an expression. -/
def Expression.objections (e : Expression) : List Error :=
  fragmentObjections e.text ++ e.alias?.toList.flatMap nameObjections

/-- The objections to a join. -/
def Join.objections (j : Join) : List Error :=
  nameObjections j.table.name ++ fragmentObjections j.on

/-- The objections to a condition: the columns of it and of all conditions below it. -/
def Condition.objections (c : Condition) : List Error :=
  c.nodes.flatMap fun node => nameObjections node.predicate.column

/-- The objections to a grouping. -/
def Grouping.objections (g : Grouping) : List Error :=
  g.columns.flatMap nameObjections ++ g.having?.toList.flatMap fragmentObjections

/-- The objections to an order. -/
def RowOrder.objections (o : RowOrder) : List Error := o.columns.flatMap nameObjections

/-- The objection to a limit. -/
def limitObjections (max limit : UInt64) : List Error :=
  if limit = 0 ∨ max < limit then [.limitOutsideBounds limit max] else []

/-- **The objections to clauses**, clause by clause. -/
def Clauses.objections (settings : QuerySettings) (c : Clauses) : List Error :=
  nameObjections c.table.name ++ c.columns.flatMap Column.objections ++
    c.expressions.flatMap Expression.objections ++ c.joins.flatMap Join.objections ++
    c.conditions.flatMap Condition.objections ++ c.grouping?.toList.flatMap Grouping.objections ++
    c.ordering?.toList.flatMap RowOrder.objections ++
    c.limit?.toList.flatMap (limitObjections settings.maxLimit)

namespace Query

/-- **Everything that is wrong with a query.** -/
def objections (settings : QuerySettings) : Query → List Error
  | plain c => c.objections settings
  | withNamed name inner c =>
    nameObjections name ++ inner.objections settings ++ c.objections settings

/-- **A query that may be sent**, or the first thing that is wrong with it. -/
def check (settings : QuerySettings) (q : Query) : Except Error Unit :=
  match q.objections settings with
  | [] => .ok ()
  | objection :: _ => .error objection

end Query

end ChartData
