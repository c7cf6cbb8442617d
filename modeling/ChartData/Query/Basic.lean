import ChartData.Filter.Condition
import ChartData.Query.Table

/-!
# Queries

A query describes what to read from the store: columns and expressions, a table and joins to it,
conditions that all have to hold, grouping, order, a limit and an offset – its `Clauses`. In front
of them a query may name one other query and read from it by that name, and that query may do the
same. So a query is a chain: clauses alone, or a named query and clauses (`Query`).

Two queries are equal when they describe the same thing (`Query.equal`): tables are compared by
name, numbers by value, everything else as it stands. `Query.restrictedTo` restricts a query to the
rows of one dataset, by one more condition beside its own; the named query in front is left alone.
-/

namespace ChartData

/-- **How the values of a column are aggregated.** -/
inductive Aggregation where
  /-- The number of the values. -/
  | count
  /-- The sum of the values. -/
  | sum
  /-- The mean of the values. -/
  | avg
  /-- The least. -/
  | min
  /-- The greatest. -/
  | max
deriving DecidableEq, Repr

namespace Aggregation

/-- All aggregations. -/
def all : List Aggregation := [count, sum, avg, min, max]

/-- The name of an aggregation, in data and in a statement. -/
def name : Aggregation → String
  | count => "COUNT"
  | sum => "SUM"
  | avg => "AVG"
  | min => "MIN"
  | max => "MAX"

/-- The aggregation with a name. -/
def ofName? (name : String) : Option Aggregation := all.find? (·.name == name)

/-- A name names the aggregation it is the name of. -/
@[simp] theorem ofName?_name (a : Aggregation) : ofName? a.name = some a := by
  cases a <;> rfl

end Aggregation

/-- **A selected column.** -/
structure Column where
  /-- The name of the column. -/
  name : String
  /-- The name it is given in the answer. -/
  alias? : Option String
  /-- How its values are aggregated. -/
  aggregation? : Option Aggregation
  /-- Whether equal values count once; saying so is optional, and saying no is allowed. -/
  distinct? : Option Bool
deriving DecidableEq

/-- Whether a column counts distinct values without being aggregated, which means nothing. -/
def Column.isMisplacedDistinct (c : Column) : Bool :=
  c.distinct? == some true && c.aggregation?.isNone

/-- **A selected expression**, as text. -/
structure Expression where
  /-- The text of the expression. -/
  text : String
  /-- The name it is given in the answer. -/
  alias? : Option String
deriving DecidableEq

/-- **Which rows a join keeps** that have no partner. -/
inductive JoinKind where
  /-- None. -/
  | inner
  /-- The rows of the tables so far. -/
  | left
  /-- The rows of the joined table. -/
  | right
  /-- All. -/
  | full
deriving DecidableEq, Repr

namespace JoinKind

/-- A join is inner unless told otherwise. -/
instance : Inhabited JoinKind := ⟨inner⟩

/-- All kinds of join. -/
def all : List JoinKind := [inner, left, right, full]

/-- The name of a kind of join. -/
def name : JoinKind → String
  | inner => "inner"
  | left => "left"
  | right => "right"
  | full => "full"

/-- A kind of join in a statement. -/
def sql : JoinKind → String
  | inner => "INNER JOIN"
  | left => "LEFT JOIN"
  | right => "RIGHT JOIN"
  | full => "FULL JOIN"

/-- The kind of join with a name. -/
def ofName? (name : String) : Option JoinKind := all.find? (·.name == name)

/-- A name names the kind of join it is the name of. -/
@[simp] theorem ofName?_name (k : JoinKind) : ofName? k.name = some k := by
  cases k <;> rfl

end JoinKind

/-- **A join to another table.** -/
structure Join where
  /-- The joined table. -/
  table : Table
  /-- Which rows without a partner are kept. -/
  kind : JoinKind
  /-- The text of the join condition. -/
  on : String
deriving DecidableEq

/-- Sameness of joins, tables by name. -/
def Join.equal (a b : Join) : Bool :=
  a.table.equal b.table && a.kind == b.kind && a.on == b.on

/-- **How rows are grouped.** -/
structure Grouping where
  /-- The columns whose values make a group. -/
  columns : List String
  /-- The text of a condition on groups. -/
  having? : Option String
deriving DecidableEq

/-- **The direction of an order.** -/
inductive Direction where
  /-- The least first. -/
  | ascending
  /-- The greatest first. -/
  | descending
deriving DecidableEq, Repr

namespace Direction

/-- The greatest comes first unless told otherwise. -/
instance : Inhabited Direction := ⟨descending⟩

/-- The name of a direction. -/
def name : Direction → String
  | ascending => "asc"
  | descending => "desc"

/-- A direction in a statement. -/
def sql : Direction → String
  | ascending => "ASC"
  | descending => "DESC"

/-- The direction with a name. -/
def ofName? (name : String) : Option Direction :=
  [ascending, descending].find? (·.name == name)

/-- A name names the direction it is the name of. -/
@[simp] theorem ofName?_name (d : Direction) : ofName? d.name = some d := by
  cases d <;> rfl

end Direction

/-- **How rows are ordered.** -/
structure RowOrder where
  /-- The columns that decide, the first first. -/
  columns : List String
  /-- The direction, the same for all of them. -/
  direction : Direction
deriving DecidableEq

/-- **The clauses of one query**, without a query in front. -/
structure Clauses where
  /-- The selected columns, in the order of the answer. -/
  columns : List Column
  /-- The selected expressions, after the columns. -/
  expressions : List Expression
  /-- The table. -/
  table : Table
  /-- The joins, from left to right. -/
  joins : List Join
  /-- The conditions, which all have to hold. -/
  conditions : List Condition
  /-- How rows are grouped. -/
  grouping? : Option Grouping
  /-- How rows are ordered. -/
  ordering? : Option RowOrder
  /-- The greatest number of rows. -/
  limit? : Option UInt64
  /-- The number of rows passed over. -/
  offset? : Option UInt64

/-- **A query**: clauses, alone or after a named query that they may read from. -/
inductive Query where
  /-- Clauses alone. -/
  | plain (clauses : Clauses)
  /-- A named query and clauses. -/
  | withNamed (name : String) (inner : Query) (clauses : Clauses)

namespace Clauses

/-- Nothing but a table. -/
def ofTable (table : Table) : Clauses :=
  ⟨[], [], table, [], [], none, none, none, none⟩

instance : Inhabited Clauses := ⟨ofTable default⟩

/-- **Equality of clauses**: tables by name, literals by value. -/
def equal (a b : Clauses) : Bool :=
  a.columns == b.columns && a.expressions == b.expressions && a.table.equal b.table &&
    a.joins.length == b.joins.length && (a.joins.zip b.joins).all (fun (x, y) => x.equal y) &&
    Condition.equalGroups a.conditions b.conditions && a.grouping? == b.grouping? &&
    a.ordering? == b.ordering? && a.limit? == b.limit? && a.offset? == b.offset?

end Clauses

namespace Query

instance : Inhabited Query := ⟨plain default⟩

/-- The clauses of the query itself. -/
def clauses : Query → Clauses
  | plain c | withNamed _ _ c => c

/-- The query with other clauses. -/
def withClauses (c : Clauses) : Query → Query
  | plain _ => plain c
  | withNamed name inner _ => withNamed name inner c

/-- The clauses are those that were given. -/
@[simp] theorem clauses_withClauses (c : Clauses) (q : Query) : (q.withClauses c).clauses = c := by
  cases q <;> rfl

/-- The query with its clauses changed. -/
def mapClauses (f : Clauses → Clauses) (q : Query) : Query := q.withClauses (f q.clauses)

/-- The query after a named query, in place of any that was there. -/
def naming (q : Query) (name : String) (inner : Query) : Query := withNamed name inner q.clauses

/-- **The number of named queries in front**, one behind the other. -/
def depth : Query → Nat
  | plain _ => 0
  | withNamed _ inner _ => inner.depth + 1

/-- **The clauses of all queries of the chain**, the outermost first. -/
def chain : Query → List Clauses
  | plain c => [c]
  | withNamed _ inner c => c :: inner.chain

/-- **Equality of queries**: they describe the same thing. -/
def equal : Query → Query → Bool
  | plain a, plain b => a.equal b
  | withNamed m p a, withNamed n q b => m == n && p.equal q && a.equal b
  | _, _ => false

/-- The column that says which dataset a row belongs to. -/
def datasetColumn : String := "dataset_id"

/-- **The query restricted to the rows of one dataset.** -/
def restrictedTo (dataset : String) (q : Query) : Query :=
  q.mapClauses fun c =>
    { c with
      conditions := c.conditions ++ [.compare datasetColumn .equal (.string dataset)] }

end Query

end ChartData
