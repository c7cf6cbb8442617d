import ChartData.Proofs.ConditionData
import ChartData.Query.Data

/-!
# Queries read back

A query that is written as a data value is read back as the same query, with one difference: a table
of a known name is read as the known table, whether it was written as a custom one or not
(`Query.recognized`). The two are the same table, so what is read is equal to what was written
(`queries_and_conditions_read_back`).

What is empty or absent is not written, and is read as empty or absent because every field of a
query has that as its default. The proof goes along the chain of named queries, each of which takes
two levels more than the query in it.
-/

namespace ChartData

open Decode

/-! ## Tables by their names -/

/-- The table with the same name, the known one if there is one. -/
def Table.recognized (t : Table) : Table := .ofName t.name

/-- The join with its table recognized. -/
def Join.recognized (j : Join) : Join := { j with table := j.table.recognized }

/-- The clauses with their tables recognized. -/
def Clauses.recognized (c : Clauses) : Clauses :=
  { c with table := c.table.recognized, joins := c.joins.map Join.recognized }

/-- **The query with all its tables recognized.** -/
def Query.recognized : Query → Query
  | plain c => plain c.recognized
  | withNamed name inner c => withNamed name inner.recognized c.recognized

theorem Table.equal_recognized (t : Table) : t.recognized.equal t = true := by
  unfold equal recognized
  rw [name_ofName]
  exact beq_self_eq_true t.name

theorem Join.equal_recognized (j : Join) : j.recognized.equal j = true := by
  unfold equal recognized
  rw [Table.equal_recognized, beq_self_eq_true, beq_self_eq_true]
  rfl

theorem Join.all_equal_recognized (joins : List Join) :
    ((joins.map recognized).zip joins).all (fun (x, y) => x.equal y) = true := by
  induction joins with
  | nil => rfl
  | cons j rest ih =>
    rw [List.map_cons, List.zip_cons_cons, List.all_cons, ih]
    show (j.recognized.equal j && true) = true
    rw [equal_recognized]
    rfl

theorem Clauses.equal_recognized (c : Clauses) : c.recognized.equal c = true := by
  unfold equal recognized
  simp only [beq_self_eq_true, Table.equal_recognized, List.length_map,
    Join.all_equal_recognized, Condition.equalGroups_self fun d _ => Condition.equal_self d,
    Bool.and_self]

/-- **Recognizing tables leaves a query equal.** -/
theorem Query.equal_recognized (q : Query) : q.recognized.equal q = true := by
  induction q with
  | plain c => exact c.equal_recognized
  | withNamed name inner c ih =>
    rw [recognized, equal, beq_self_eq_true, ih, Clauses.equal_recognized]
    rfl

/-! ## The parts of a query -/

theorem Table.yields_toJson (t : Table) : Table.decode.Yields t.toJson t.recognized :=
  fun _ _ => rfl

theorem Aggregation.yields_name (a : Aggregation) :
    Aggregation.decode.Yields (.string a.name) a :=
  yields_choice (Aggregation.ofName?_name a)

theorem JoinKind.yields_name (k : JoinKind) : JoinKind.decode.Yields (.string k.name) k :=
  yields_choice (JoinKind.ofName?_name k)

theorem Direction.yields_name (d : Direction) : Direction.decode.Yields (.string d.name) d :=
  yields_choice (Direction.ofName?_name d)

theorem yields_stringsToJson (strings : List String) :
    (Decode.list Decode.string).Yields (stringsToJson strings) strings := by
  have h : ∀ s ∈ strings, Decode.string.Yields (.string s) (id s) := fun s _ => yields_string s
  have := yields_list h
  rwa [List.map_id] at this

theorem Column.yields_toJson (c : Column) : Column.decode.Yields c.toJson c := by
  refine yields_object ((((Named.single _ _).append (.entryOf? _ _)).append (.entryOf? _ _)).append
    (.entryOf? _ _)) (by decide) (fun _ _ => rfl) fun levels hl => ?_
  rw [bind_of_eq_ok (Fields.required_eq_ok (yields_string c.name) hl (by simp)),
    bind_of_eq_ok (Fields.optional_eq_ok c.alias? yields_string (by simp) hl
      (by simp [List.lookup_cons, List.lookup_append])),
    bind_of_eq_ok (Fields.optional_eq_ok c.aggregation? Aggregation.yields_name (by simp) hl
      (by simp [List.lookup_cons, List.lookup_append])),
    bind_of_eq_ok (Fields.optional_eq_ok c.distinct? yields_bool (by simp) hl
      (by simp [List.lookup_cons, List.lookup_append]))]
  rfl

theorem Expression.yields_toJson (e : Expression) : Expression.decode.Yields e.toJson e := by
  refine yields_object ((Named.single _ _).append (.entryOf? _ _)) (by decide) (fun _ _ => rfl)
    fun levels hl => ?_
  rw [bind_of_eq_ok (Fields.required_eq_ok (yields_string e.text) hl (by simp)),
    bind_of_eq_ok (Fields.optional_eq_ok e.alias? yields_string (by simp) hl
      (by simp [List.lookup_cons]))]
  rfl

theorem Join.yields_toJson (j : Join) : Join.decode.Yields j.toJson j.recognized := by
  refine yields_object (((Named.single _ _).append (.single _ _)).append (.single _ _)) (by decide)
    (fun _ _ => rfl) fun levels hl => ?_
  rw [bind_of_eq_ok (Fields.required_eq_ok j.table.yields_toJson hl (by simp)),
    bind_of_eq_ok (Fields.orElse_eq_ok j.kind.yields_name hl (by simp [List.lookup_cons])),
    bind_of_eq_ok (Fields.required_eq_ok (yields_string j.on) hl (by simp [List.lookup_cons]))]
  rfl

theorem Grouping.yields_toJson (g : Grouping) : Grouping.decode.Yields g.toJson g := by
  refine yields_object ((Named.single _ _).append (.entryOf? _ _)) (by decide) (fun _ _ => rfl)
    fun levels hl => ?_
  rw [bind_of_eq_ok (Fields.required_eq_ok (yields_stringsToJson g.columns) hl (by simp)),
    bind_of_eq_ok (Fields.optional_eq_ok g.having? yields_string (by simp) hl
      (by simp [List.lookup_cons]))]
  rfl

theorem RowOrder.yields_toJson (o : RowOrder) : RowOrder.decode.Yields o.toJson o := by
  refine yields_object ((Named.single _ _).append (.single _ _)) (by decide) (fun _ _ => rfl)
    fun levels hl => ?_
  rw [bind_of_eq_ok (Fields.required_eq_ok (yields_stringsToJson o.columns) hl (by simp)),
    bind_of_eq_ok (Fields.orElse_eq_ok o.direction.yields_name hl (by simp [List.lookup_cons]))]
  rfl

/-! ## Clauses -/

namespace Clauses

/-- An entry left out with an empty list stands under its own name and no other. -/
@[simp] theorem lookup_entryOfList (name key : String) (items : List Json) :
    (entryOfList name items).lookup key =
      if key == name then (if items.isEmpty then none else some (.array items)) else none := by
  unfold entryOfList
  split
  · exact (ite_self none).symm
  · rw [List.lookup_cons]
    cases key == name <;> rfl

theorem named_entryOfList (name : String) (items : List Json) :
    Named [name] (entryOfList name items) := by
  unfold entryOfList
  split
  · exact .nil _
  · exact .single _ _

/-- The entries of clauses are fields of a query. -/
theorem named_toEntries (c : Clauses) :
    Named ["columns", "expressions", "table", "joins", "filter_conditions", "group_by", "order_by",
      "limit", "offset"] c.toEntries :=
  ((((((((Named.single _ _).append (named_entryOfList _ _)).append (.single _ _)).append
    (named_entryOfList _ _)).append (named_entryOfList _ _)).append (.entryOf? _ _)).append
      (.entryOf? _ _)).append (.entryOf? _ _)).append (.entryOf? _ _)

/-- What stands under a name for a list that is left out where it is empty. -/
def listEntry? {α : Type} (toJson : α → Json) (xs : List α) : Option Json :=
  if (xs.map toJson).isEmpty then none else some (.array (xs.map toJson))

/-- **Clauses are written in entries** when what stands under the name of each clause is what is
written of it. -/
structure WrittenIn (c : Clauses) (entries : List (String × Json)) : Prop where
  columns : entries.lookup "columns" = some (.array (c.columns.map Column.toJson))
  expressions : entries.lookup "expressions" = listEntry? Expression.toJson c.expressions
  table : entries.lookup "table" = some c.table.toJson
  joins : entries.lookup "joins" = listEntry? Join.toJson c.joins
  conditions : entries.lookup "filter_conditions" = listEntry? Condition.toJson c.conditions
  grouping : entries.lookup "group_by" = c.grouping?.map Grouping.toJson
  ordering : entries.lookup "order_by" = c.ordering?.map RowOrder.toJson
  limit : entries.lookup "limit" = c.limit?.map countToJson
  offset : entries.lookup "offset" = c.offset?.map countToJson

/-- The entries of clauses have the clauses written in them, whatever stands under the name of a
named query. -/
theorem writtenIn_toEntries (c : Clauses) (named? : Option Json) :
    c.WrittenIn (c.toEntries ++ Json.entryOf? "cte_query" named?) := by
  constructor <;>
    simp [toEntries, listEntry?, List.lookup_cons, List.lookup_append,
      Condition.groupToJson_eq_map]

theorem lookup_cte_query (c : Clauses) (named? : Option Json) :
    (c.toEntries ++ Json.entryOf? "cte_query" named?).lookup "cte_query" = named? := by
  simp [toEntries, List.lookup_cons, List.lookup_append]

/-- **Clauses are read back** from the fields of a query that they are written in, their tables
recognized. -/
theorem ofFields_eq_ok {c : Clauses} {f : Fields} (hf : Json.entriesDepth f.written ≤ f.levels)
    (hw : c.WrittenIn f.written) : ofFields f = .ok c.recognized := by
  have hcolumns : f.orElse "columns" [] (Decode.list Column.decode) = .ok (c.columns.map id) :=
    Fields.orElse_eq_ok (yields_list fun d _ => Column.yields_toJson d) hf hw.columns
  have hexpressions : f.orElse "expressions" [] (Decode.list Expression.decode) =
      .ok (c.expressions.map id) :=
    Fields.list_eq_ok c.expressions (fun e _ => Expression.yields_toJson e) hf hw.expressions
  have hjoins := Fields.list_eq_ok c.joins (fun j _ => Join.yields_toJson j) hf hw.joins
  have hconditions : f.orElse "filter_conditions" [] (Decode.list Condition.decode) =
      .ok (c.conditions.map id) :=
    Fields.list_eq_ok c.conditions (fun d _ => Condition.yields_toJson d) hf hw.conditions
  have hgrouping := Fields.optional_eq_ok c.grouping? Grouping.yields_toJson
    (by simp [Grouping.toJson]) hf hw.grouping
  have hordering := Fields.optional_eq_ok c.ordering? RowOrder.yields_toJson
    (by simp [RowOrder.toJson]) hf hw.ordering
  have hlimit := Fields.optional_eq_ok c.limit? yields_uint64 (by simp) hf hw.limit
  have hoffset := Fields.optional_eq_ok c.offset? yields_uint64 (by simp) hf hw.offset
  unfold ofFields
  rw [bind_of_eq_ok hcolumns, bind_of_eq_ok hexpressions,
    bind_of_eq_ok (Fields.orElse_eq_ok c.table.yields_toJson hf hw.table), bind_of_eq_ok hjoins,
    bind_of_eq_ok hconditions, bind_of_eq_ok hgrouping, bind_of_eq_ok hordering,
    bind_of_eq_ok hlimit, bind_of_eq_ok hoffset, List.map_id, List.map_id, List.map_id]
  rfl

end Clauses

/-! ## Queries -/

namespace Query

/-- Both entries of a named query are fields of it. -/
theorem fields_named (name : String) (j : Json) (levels : Nat) :
    fields ["alias", "query"] (levels + 1) (.object [("alias", .string name), ("query", j)]) =
      .ok ⟨levels, [("alias", .string name), ("query", j)]⟩ :=
  fields_object ((Named.single _ _).append (.single _ _)) (by decide)

/-- A named query is read back where the query is. -/
theorem decodeNamed_eq_ok {readQuery : Json → Except DecodeError Query} {name : String} {j : Json}
    {inner : Query} {levels : Nat} (h : readQuery j = .ok inner) :
    decodeNamed readQuery (levels + 1) (.object [("alias", .string name), ("query", j)]) =
      .ok (name, inner) := by
  have hinner : (Fields.mk levels [("alias", .string name), ("query", j)]).required "query"
      (fun _ => readQuery) = .ok inner := by
    unfold Fields.required
    simpa [List.lookup_cons] using h
  unfold decodeNamed
  rw [bind_of_eq_ok (fields_named name j levels)]
  exact bind_of_eq_ok hinner _

/-- All entries of a query are fields of it. -/
theorem fields_entries (c : Clauses) (named? : Option Json) (levels : Nat) :
    fields fieldNames (levels + 1) (.object (c.toEntries ++ Json.entryOf? "cte_query" named?)) =
      .ok ⟨levels, c.toEntries ++ Json.entryOf? "cte_query" named?⟩ :=
  fields_object (c.named_toEntries.append (.entryOf? _ _)) (by decide)

/-- **A query is read back where its named query is**, its clauses being read back in any case. -/
theorem decodeWith_eq_ok (inner? : Option (String × Query)) {c : Clauses} {named? : Option Json}
    {readNamed : Json → Except DecodeError (String × Query)} {levels : Nat}
    (hl : Json.entriesDepth (c.toEntries ++ Json.entryOf? "cte_query" named?) ≤ levels)
    (hn : ∀ f : Fields, f.written.lookup "cte_query" = named? →
      f.optional "cte_query" (fun _ => readNamed) = .ok inner?) :
    decodeWith readNamed (levels + 1)
        (.object (c.toEntries ++ Json.entryOf? "cte_query" named?)) =
      .ok (inner?.elim (plain c.recognized) fun (name, inner) =>
        withNamed name inner c.recognized) := by
  have hc : Clauses.ofFields ⟨levels, c.toEntries ++ Json.entryOf? "cte_query" named?⟩ =
      .ok c.recognized :=
    Clauses.ofFields_eq_ok hl (c.writtenIn_toEntries named?)
  unfold decodeWith
  rw [bind_of_eq_ok (fields_entries c named? levels), bind_of_eq_ok hc,
    bind_of_eq_ok (hn ⟨levels, _⟩ (c.lookup_cte_query named?))]
  cases inner? <;> rfl

theorem toJson_plain (c : Clauses) :
    (plain c).toJson = .object (c.toEntries ++ Json.entryOf? "cte_query" none) :=
  congrArg Json.object (List.append_nil c.toEntries).symm

theorem toJson_withNamed (name : String) (inner : Query) (c : Clauses) :
    (withNamed name inner c).toJson = .object (c.toEntries ++ Json.entryOf? "cte_query"
      (some (.object [("alias", .string name), ("query", inner.toJson)]))) := rfl

/-- **Queries are read back**, their tables recognized. -/
theorem yields_toJson (q : Query) : decode.Yields q.toJson q.recognized := by
  induction q with
  | plain c =>
    intro levels hl
    rw [toJson_plain] at hl ⊢
    rw [Json.depth] at hl
    -- The levels left inside decide how a named query would be read, but there is none.
    rcases levels with _ | _ | levels
    · exact absurd hl (Nat.not_succ_le_zero _)
    · exact decodeWith_eq_ok none (by omega) fun _ hf => Fields.optional_eq_none hf
    · exact decodeWith_eq_ok none (by omega) fun _ hf => Fields.optional_eq_none hf
  | withNamed name inner c ih =>
    intro levels hl
    obtain ⟨levels, rfl, hinside, hentries⟩ := Json.exists_levels (by rw [Json.depth]) hl
    have hquery : [("alias", Json.string name), ("query", inner.toJson)].lookup "query" =
        some inner.toJson := by simp [List.lookup_cons]
    rw [toJson_withNamed]
    have hinner := ih levels (Nat.le_trans (Json.depth_le_entriesDepth hquery) hinside)
    refine decodeWith_eq_ok (some (name, inner.recognized)) hentries fun f hf => ?_
    unfold Fields.optional Fields.orElse
    rw [hf]
    show (decodeNamed (decode levels) (levels + 1) _).map some = _
    rw [decodeNamed_eq_ok hinner]
    rfl

end Query

/-- **What is written is read back.** A query is read back with its tables recognized and all else
as it was, which leaves it equal, and a condition is read back exactly, groups of no conditions
included. This is so for chains of named queries of any length and for conditions of any depth. -/
theorem queries_and_conditions_read_back :
    (∀ q : Query, Query.decode.ofJson q.toJson = .ok q.recognized ∧ q.recognized.equal q = true) ∧
      ∀ c : Condition, Condition.decode.ofJson c.toJson = .ok c := by
  refine ⟨fun q => ⟨?_, q.equal_recognized⟩, fun c => ?_⟩
  · exact q.yields_toJson.ofJson
  · exact c.yields_toJson.ofJson

end ChartData
