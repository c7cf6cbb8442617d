import ChartData.Query.Basic

/-!
# Queries as data

The form in which queries travel to the store. Columns and table are always written; of everything
else, what is empty or absent is left out. Reading is more generous: every field may be absent, and
structures may be written as arrays of their fields (`Decode.fields`). A query is one level of
nesting and the named query in front of it two more, the entry that names it and the query itself.
-/

namespace ChartData

/-- A list under a name, left out if it is empty. -/
def entryOfList (name : String) (items : List Json) : List (String × Json) :=
  if items.isEmpty then [] else [(name, .array items)]

/-- A list of strings as a data value. -/
def stringsToJson (strings : List String) : Json := .array (strings.map .string)

/-- One of a few names out of a data value. -/
def Aggregation.decode : Decoder Aggregation := Decode.choice ofName?

@[inherit_doc Aggregation.decode]
def JoinKind.decode : Decoder JoinKind := Decode.choice ofName?

@[inherit_doc Aggregation.decode]
def Direction.decode : Decoder Direction := Decode.choice ofName?

namespace Column

/-- A column as a data value. -/
def toJson (c : Column) : Json :=
  .object
    ([("name", .string c.name)] ++ Json.entryOf? "alias" (c.alias?.map .string) ++
      Json.entryOf? "aggregation" (c.aggregation?.map (.string ·.name)) ++
      Json.entryOf? "distinct" (c.distinct?.map .bool))

/-- A column out of a data value. -/
def decode : Decoder Column := fun levels j => do
  let f ← Decode.fields ["name", "alias", "aggregation", "distinct"] levels j
  let name ← f.required "name" Decode.string
  let alias? ← f.optional "alias" Decode.string
  let aggregation? ← f.optional "aggregation" Aggregation.decode
  let distinct? ← f.optional "distinct" Decode.bool
  return ⟨name, alias?, aggregation?, distinct?⟩

end Column

namespace Expression

/-- An expression as a data value. -/
def toJson (e : Expression) : Json :=
  .object ([("expression", .string e.text)] ++ Json.entryOf? "alias" (e.alias?.map .string))

/-- An expression out of a data value. -/
def decode : Decoder Expression := fun levels j => do
  let f ← Decode.fields ["expression", "alias"] levels j
  let text ← f.required "expression" Decode.string
  let alias? ← f.optional "alias" Decode.string
  return ⟨text, alias?⟩

end Expression

namespace Join

/-- A join as a data value. -/
def toJson (j : Join) : Json :=
  .object [("table", j.table.toJson), ("join_type", .string j.kind.name),
    ("on_clause", .string j.on)]

/-- A join out of a data value. -/
def decode : Decoder Join := fun levels j => do
  let f ← Decode.fields ["table", "join_type", "on_clause"] levels j
  let table ← f.required "table" Table.decode
  let kind ← f.orElse "join_type" default JoinKind.decode
  let on ← f.required "on_clause" Decode.string
  return ⟨table, kind, on⟩

end Join

namespace Grouping

/-- A grouping as a data value. -/
def toJson (g : Grouping) : Json :=
  .object ([("columns", stringsToJson g.columns)] ++
    Json.entryOf? "having" (g.having?.map .string))

/-- A grouping out of a data value. -/
def decode : Decoder Grouping := fun levels j => do
  let f ← Decode.fields ["columns", "having"] levels j
  let columns ← f.required "columns" (Decode.list Decode.string)
  let having? ← f.optional "having" Decode.string
  return ⟨columns, having?⟩

end Grouping

namespace RowOrder

/-- An order as a data value. -/
def toJson (o : RowOrder) : Json :=
  .object [("columns", stringsToJson o.columns), ("direction", .string o.direction.name)]

/-- An order out of a data value. -/
def decode : Decoder RowOrder := fun levels j => do
  let f ← Decode.fields ["columns", "direction"] levels j
  let columns ← f.required "columns" (Decode.list Decode.string)
  let direction ← f.orElse "direction" default Direction.decode
  return ⟨columns, direction⟩

end RowOrder

namespace Clauses

/-- An unsigned integer as a data value. -/
def countToJson (n : UInt64) : Json := .number (.ofUInt64 n)

/-- **The entries of the clauses of a query.** -/
def toEntries (c : Clauses) : List (String × Json) :=
  [("columns", .array (c.columns.map Column.toJson))] ++
    entryOfList "expressions" (c.expressions.map Expression.toJson) ++
    [("table", c.table.toJson)] ++
    entryOfList "joins" (c.joins.map Join.toJson) ++
    entryOfList "filter_conditions" (Condition.groupToJson c.conditions) ++
    Json.entryOf? "group_by" (c.grouping?.map Grouping.toJson) ++
    Json.entryOf? "order_by" (c.ordering?.map RowOrder.toJson) ++
    Json.entryOf? "limit" (c.limit?.map countToJson) ++
    Json.entryOf? "offset" (c.offset?.map countToJson)

/-- The clauses among the fields of a query. -/
def ofFields (f : Decode.Fields) : Except DecodeError Clauses := do
  let columns ← f.orElse "columns" [] (Decode.list Column.decode)
  let expressions ← f.orElse "expressions" [] (Decode.list Expression.decode)
  let table ← f.orElse "table" default Table.decode
  let joins ← f.orElse "joins" [] (Decode.list Join.decode)
  let conditions ← f.orElse "filter_conditions" [] (Decode.list Condition.decode)
  let grouping? ← f.optional "group_by" Grouping.decode
  let ordering? ← f.optional "order_by" RowOrder.decode
  let limit? ← f.optional "limit" Decode.uint64
  let offset? ← f.optional "offset" Decode.uint64
  return ⟨columns, expressions, table, joins, conditions, grouping?, ordering?, limit?, offset?⟩

end Clauses

namespace Query

/-- **A query as a data value.** -/
def toJson : Query → Json
  | plain c => .object c.toEntries
  | withNamed name inner c =>
    .object (c.toEntries ++
      [("cte_query", .object [("alias", .string name), ("query", inner.toJson)])])

/-- The names of the fields of a query. -/
def fieldNames : List String :=
  ["columns", "expressions", "table", "joins", "filter_conditions", "group_by", "order_by",
    "limit", "offset", "cte_query"]

/-- A named query out of a data value, given how the query is read. -/
def decodeNamed (query : Json → Except DecodeError Query) : Decoder (String × Query) :=
  fun levels j => do
    let f ← Decode.fields ["alias", "query"] levels j
    let name ← f.required "alias" Decode.string
    let inner ← f.required "query" fun _ => query
    return (name, inner)

/-- A query out of a data value, given how a named query in front of it is read. -/
def decodeWith (named : Json → Except DecodeError (String × Query)) : Decoder Query :=
  fun levels j => do
    let f ← Decode.fields fieldNames levels j
    let clauses ← Clauses.ofFields f
    let named? ← f.optional "cte_query" fun _ => named
    return match named? with
      | none => plain clauses
      | some (name, inner) => withNamed name inner clauses

/-- **A query out of a data value.** -/
def decode : Decoder Query
  | 0, _ => .error .shape
  | 1, j => decodeWith (fun _ => .error .shape) 1 j
  | levels + 2, j => decodeWith (decodeNamed (decode levels) (levels + 1)) (levels + 2) j

end Query

end ChartData
