import ChartData.Query.Basic

/-!
# Building queries

A query is built step by step, from nothing but a table. Columns, expressions, joins and conditions
are added at the end of their clause; table, grouping, order, limit, offset and the named query in
front are set, in place of what was set before. A step that makes no sense – distinct values of a
column that is not aggregated, a negative limit or offset – is refused, and there is no query after
it.

The steps are values themselves (`BuildStep`), so that a sequence of them can be talked about.
-/

namespace ChartData

/-- **What is selected of a column.** -/
structure Selection where
  /-- The name of the column. -/
  name : String
  /-- The name it is given in the answer. -/
  alias? : Option String
  /-- How its values are aggregated. -/
  aggregation? : Option Aggregation
  /-- Whether equal values count once. -/
  distinct : Bool
deriving DecidableEq

/-- **A step of building a query.** -/
inductive BuildStep where
  /-- Select a column. -/
  | select (selection : Selection)
  /-- Select an expression. -/
  | compute (text : String) (alias? : Option String)
  /-- Read from a table. -/
  | fromTable (table : Table)
  /-- Join a table. -/
  | join (table : Table) (on : String) (kind : JoinKind)
  /-- Ask for a condition to hold as well. -/
  | filter (condition : Condition)
  /-- Group rows. -/
  | groupBy (columns : List String) (having? : Option String)
  /-- Order rows. -/
  | orderBy (columns : List String) (direction : Direction)
  /-- Ask for no more than a number of rows. -/
  | limit (n : Int64)
  /-- Pass over a number of rows. -/
  | offset (n : Int64)
  /-- Name a query to read from. -/
  | naming (name : String) (inner : Query)

/-- A count, unless it is negative. -/
def countOf (field : CountField) (n : Int64) : Except Error UInt64 :=
  if 0 ≤ n then .ok n.toUInt64 else .error (.negativeCount field n.toInt)

namespace Query

/-- The query that reads everything from a table. -/
def ofTable (table : Table) : Query := plain (.ofTable table)

/-- **Select a column.** Saying that values are not distinct is the same as not saying anything. -/
def select (s : Selection) (q : Query) : Except Error Query :=
  if s.distinct && s.aggregation?.isNone then .error (.distinctWithoutAggregation s.name)
  else
    .ok (q.mapClauses fun c =>
      { c with
        columns := c.columns ++
          [⟨s.name, s.alias?, s.aggregation?, if s.distinct then some true else none⟩] })

/-- **Select an expression.** -/
def compute (text : String) (alias? : Option String) (q : Query) : Query :=
  q.mapClauses fun c => { c with expressions := c.expressions ++ [⟨text, alias?⟩] }

/-- **Read from a table.** -/
def fromTable (table : Table) (q : Query) : Query :=
  q.mapClauses fun c => { c with table := table }

/-- **Join a table.** -/
def join (table : Table) (on : String) (kind : JoinKind) (q : Query) : Query :=
  q.mapClauses fun c => { c with joins := c.joins ++ [⟨table, kind, on⟩] }

/-- **Ask for a condition to hold as well.** -/
def filter (condition : Condition) (q : Query) : Query :=
  q.mapClauses fun c => { c with conditions := c.conditions ++ [condition] }

/-- **Group rows.** -/
def groupBy (columns : List String) (having? : Option String) (q : Query) : Query :=
  q.mapClauses fun c => { c with grouping? := some ⟨columns, having?⟩ }

/-- **Order rows.** -/
def orderBy (columns : List String) (direction : Direction) (q : Query) : Query :=
  q.mapClauses fun c => { c with ordering? := some ⟨columns, direction⟩ }

/-- **Ask for no more than a number of rows.** -/
def limitTo (n : Int64) (q : Query) : Except Error Query :=
  (countOf .limit n).map fun n => q.mapClauses fun c => { c with limit? := some n }

/-- **Pass over a number of rows.** -/
def startAt (n : Int64) (q : Query) : Except Error Query :=
  (countOf .offset n).map fun n => q.mapClauses fun c => { c with offset? := some n }

end Query

namespace BuildStep

/-- **The query after a step.** -/
def apply : BuildStep → Query → Except Error Query
  | select s, q => q.select s
  | compute text alias?, q => .ok (q.compute text alias?)
  | fromTable table, q => .ok (q.fromTable table)
  | join table on kind, q => .ok (q.join table on kind)
  | filter condition, q => .ok (q.filter condition)
  | groupBy columns having?, q => .ok (q.groupBy columns having?)
  | orderBy columns direction, q => .ok (q.orderBy columns direction)
  | limit n, q => q.limitTo n
  | offset n, q => q.startAt n
  | naming name inner, q => .ok (q.naming name inner)

/-- The query after a step, or the query itself where the step is refused. -/
def applyOrKeep (s : BuildStep) (q : Query) : Query :=
  match s.apply q with
  | .ok q' => q'
  | .error _ => q

/-- **The query after a sequence of steps**, those that are refused passed over. -/
def run (steps : List BuildStep) (q : Query) : Query :=
  steps.foldl (fun q s => s.applyOrKeep q) q

end BuildStep

end ChartData
