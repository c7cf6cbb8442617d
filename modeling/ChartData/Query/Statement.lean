import ChartData.Query.Basic
import ChartData.Settings.Basic

/-!
# Statements

A query is sent as a statement in SQL with question marks in it and, beside it, what each question
mark stands for. Both come from one list of pieces: a piece is text that is written as it stands or
a parameter, and the statement's text and its list of parameters are two views of the pieces
(`Statement.text`, `Statement.parameters`). So the order of the parameters is the order of the
question marks by construction, as long as the text written as it stands has none of its own.

The conditions of a query are first laid out as connectives, parentheses and predicates
(`WhereToken`). A group is put in parentheses with the predicate that heads it, unless the group is
empty; between the conditions of a query stands `AND`. That is enough for the precedence of `AND`
over `OR` never to matter.
-/

namespace ChartData

/-- **What a question mark stands for.** -/
inductive Parameter where
  /-- A literal, limit or offset. -/
  | value (literal : Literal)
  /-- A name of a table or a named query. -/
  | identifier (name : String)

/-- Sameness of parameters, literals by value. -/
def Parameter.equal : Parameter → Parameter → Bool
  | value a, value b => a.equal b
  | identifier a, identifier b => a == b
  | _, _ => false

/-- **A piece of a statement.** -/
inductive Piece where
  /-- Text as it stands. -/
  | text (s : String)
  /-- A question mark and what it stands for. -/
  | bind (parameter : Parameter)

/-- **A statement**: its pieces in order. -/
abbrev Statement := List Piece

namespace Piece

/-- A piece as it is written. -/
def written : Piece → String
  | text s => s
  | bind _ => "?"

/-- The parameter of a piece, if it has one. -/
def parameter? : Piece → Option Parameter
  | text _ => none
  | bind p => some p

/-- A name to be bound. -/
def name (s : String) : Piece := bind (.identifier s)

/-- A literal to be bound. -/
def literal (l : Literal) : Piece := bind (.value l)

end Piece

namespace Statement

/-- **The text of a statement.** -/
def text (s : Statement) : String := String.join (s.map Piece.written)

/-- **What the question marks of a statement stand for**, in order. -/
def parameters (s : Statement) : List Parameter := s.filterMap Piece.parameter?

/-- The text of two statements in a row. -/
@[simp] theorem toList_text_append (s t : Statement) :
    (text (s ++ t)).toList = (text s).toList ++ (text t).toList := by
  simp [text]

/-- The parameters of two statements in a row. -/
@[simp] theorem parameters_append (s t : Statement) :
    parameters (s ++ t) = parameters s ++ parameters t :=
  List.filterMap_append

end Statement

/-- Several statements in order with the same text between them. -/
def separated (separator : String) : List Statement → Statement
  | [] => []
  | [s] => s
  | s :: rest => s ++ .text separator :: separated separator rest

/-! ## Conditions -/

/-- The literals that a membership compares with: the items of a list, or the literal itself. -/
def Literal.members : Literal → List Literal
  | list items => items
  | single => [single]

namespace Predicate

/-- **A predicate in a statement.** Nothing is a member of an empty list, which no statement can
say with a list, so it is said with numbers. -/
def pieces (p : Predicate) : Statement :=
  if p.comparison.takesNoLiteral then [.text (p.column ++ " " ++ p.comparison.sql)]
  else if p.comparison.isMembership then
    match p.literal.members with
    | [] => [.text (if p.comparison = .isIn then "1 = 0" else "1 = 1")]
    | members =>
      [.text (p.column ++ " " ++ p.comparison.sql ++ " (")] ++
        separated ", " (members.map fun l => [.literal l]) ++ [.text ")"]
  else [.text (p.column ++ " " ++ p.comparison.sql ++ " "), .literal p.literal]

/-- The literals that a predicate binds: none, the members, or the one. -/
def bound (p : Predicate) : List Literal :=
  if p.comparison.takesNoLiteral then []
  else if p.comparison.isMembership then p.literal.members
  else [p.literal]

end Predicate

/-- **A token of the conditions of a statement.** -/
inductive WhereToken where
  /-- An opening parenthesis. -/
  | openParen
  /-- A closing parenthesis. -/
  | closeParen
  /-- The connective that all groups are joined with. -/
  | and
  /-- The connective that any groups are joined with. -/
  | or
  /-- A predicate. -/
  | predicate (p : Predicate)

/-- A token in a statement. -/
def WhereToken.pieces : WhereToken → Statement
  | openParen => [.text "("]
  | closeParen => [.text ")"]
  | and => [.text " AND "]
  | or => [.text " OR "]
  | predicate p => p.pieces

namespace Condition

mutual

/-- **The tokens of a condition.** -/
def whereTokens : Condition → List WhereToken
  | leaf p => [.predicate p]
  | all p [] => [.predicate p]
  | all p (c :: cs) => .openParen :: .predicate p :: (groupTokens .and (c :: cs) ++ [.closeParen])
  | any p [] => [.predicate p]
  | any p (c :: cs) => .openParen :: .predicate p :: (groupTokens .or (c :: cs) ++ [.closeParen])

/-- The tokens of a group, each condition after the connective. -/
def groupTokens (connective : WhereToken) : List Condition → List WhereToken
  | [] => []
  | c :: rest => connective :: (whereTokens c ++ groupTokens connective rest)

end

/-- **The tokens of conditions that all have to hold.** -/
def conjunctionTokens : List Condition → List WhereToken
  | [] => []
  | c :: rest => c.whereTokens ++ groupTokens .and rest

end Condition

/-! ## Clauses -/

/-- A name for the answer, if there is one. -/
def aliasText (alias? : Option String) : String :=
  match alias? with
  | some name => " AS " ++ name
  | none => ""

/-- **A selected column in a statement.** -/
def Column.selectText (c : Column) : String :=
  (match c.aggregation? with
    | some a =>
      a.name ++ (if c.distinct? == some true then "(DISTINCT " else "(") ++ c.name ++ ")"
    | none => c.name) ++ aliasText c.alias?

/-- A selected expression in a statement. -/
def Expression.selectText (e : Expression) : String := e.text ++ aliasText e.alias?

/-- A join in a statement. -/
def Join.pieces (j : Join) : Statement :=
  [.text (" " ++ j.kind.sql ++ " "), .name j.table.name, .text (" ON " ++ j.on)]

namespace Clauses

/-- The texts of everything selected. -/
def selectTexts (c : Clauses) : List String :=
  c.columns.map Column.selectText ++ c.expressions.map Expression.selectText

/-- What is selected; everything, if nothing is named. -/
def selectText (c : Clauses) : String :=
  "SELECT " ++ (if c.selectTexts.isEmpty then "*" else ", ".intercalate c.selectTexts)

/-- The conditions. -/
def wherePieces (c : Clauses) : Statement :=
  if c.conditions.isEmpty then []
  else .text " WHERE " :: (Condition.conjunctionTokens c.conditions).flatMap WhereToken.pieces

/-- The grouping; a condition on groups may stand without columns. -/
def groupText (c : Clauses) : String :=
  match c.grouping? with
  | none => ""
  | some g =>
    (if g.columns.isEmpty then "" else " GROUP BY " ++ ", ".intercalate g.columns) ++
      (match g.having? with
        | some having => " HAVING " ++ having
        | none => "")

/-- The order. -/
def orderText (c : Clauses) : String :=
  match c.ordering? with
  | none => ""
  | some o =>
    if o.columns.isEmpty then ""
    else " ORDER BY " ++ ", ".intercalate o.columns ++ " " ++ o.direction.sql

/-- The limit that holds: the one set, or else the default one. -/
def effectiveLimit? (settings : QuerySettings) (c : Clauses) : Option UInt64 :=
  c.limit?.or settings.defaultLimit?

/-- A count behind a keyword, if there is one. -/
def countPieces (keyword : String) (n? : Option UInt64) : Statement :=
  match n? with
  | some n => [.text keyword, .literal (.ofUInt64 n)]
  | none => []

/-- **Clauses in a statement.** -/
def pieces (settings : QuerySettings) (c : Clauses) : Statement :=
  [.text (c.selectText ++ " FROM "), .name c.table.name] ++ c.joins.flatMap Join.pieces ++
    c.wherePieces ++ [.text (c.groupText ++ c.orderText)] ++
    countPieces " LIMIT " (c.effectiveLimit? settings) ++ countPieces " OFFSET " c.offset?

end Clauses

/-- **A query as a statement.** The named query stands in front, in parentheses. -/
def Query.statement (settings : QuerySettings) : Query → Statement
  | plain c => c.pieces settings
  | withNamed name inner c =>
    [.text "WITH ", .name name, .text " AS ("] ++ inner.statement settings ++
      [.text ") "] ++ c.pieces settings

end ChartData
