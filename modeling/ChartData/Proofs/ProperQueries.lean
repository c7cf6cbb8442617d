import ChartData.Proofs.BuildRuns
import ChartData.Proofs.Requirements
import ChartData.Proofs.Trees

/-!
# Proper queries

What has to be true of a query that is sent is said here clause by clause and level by level,
without a walk (`Query.IsProper`). Conditions are reached by descending into groups, to any depth
(`Condition.Contains`), and the queries of a chain are the query and those of the query in front of
it (`Query.levels`).

All that is asked of a query on the walk is met exactly if it is proper at every level
(`Query.forall_levels_isProper_iff`): no place is forgotten, and nothing is asked that is not said
here. For the places of a condition, that is `Condition.mem_nodes_iff`.
-/

namespace ChartData

/-! ## Conditions at any depth -/

/-- **The conditions in a condition**: itself, and those in the conditions of its group. -/
inductive Condition.Contains : Condition → Condition → Prop where
  | self (c : Condition) : Contains c c
  | inGroup {c d e : Condition} (member : d ∈ c.group) (inner : Contains d e) : Contains c e

/-- **The nodes of a condition are the conditions in it**, at any depth. -/
theorem Condition.mem_nodes_iff {c d : Condition} : d ∈ c.nodes ↔ c.Contains d := by
  constructor
  · intro h
    induction c using onGroups with
    | h c ih =>
      rw [nodes_eq, List.mem_cons, List.mem_flatMap] at h
      rcases h with rfl | ⟨e, he, hd⟩
      · exact .self d
      · exact .inGroup he (ih e he hd)
  · intro h
    induction h with
    | self c =>
      rw [nodes_eq]
      exact List.mem_cons_self
    | inGroup member _ ih =>
      rw [nodes_eq]
      exact List.mem_cons_of_mem _ (List.mem_flatMap_of_mem member ih)

/-! ## Proper queries -/

namespace Query

/-- **The queries of a chain**: the query itself, and those of the query in front of it. -/
def levels : Query → List Query
  | plain c => [plain c]
  | withNamed name inner c => withNamed name inner c :: inner.levels

/-- **A proper query**, as far as its own level goes: what has to be a name is one, what has to be a
harmless fragment is one, distinct values are counted by an aggregation, and the limit is in
bounds. -/
structure IsProper (settings : QuerySettings) (q : Query) : Prop where
  /-- The query in front has a name. -/
  named : ∀ front ∈ q.named?, isName front.1 = true
  /-- The table has a name. -/
  table : isName q.clauses.table.name = true
  /-- The columns have names. -/
  columns : ∀ column ∈ q.clauses.columns, isName column.name = true
  /-- Other names of columns are names. -/
  columnAliases : ∀ column ∈ q.clauses.columns, ∀ other ∈ column.alias?, isName other = true
  /-- Distinct values are counted by an aggregation. -/
  distinct : ∀ column ∈ q.clauses.columns,
    column.distinct? = some true → column.aggregation?.isSome = true
  /-- Expressions are harmless. -/
  expressions : ∀ e ∈ q.clauses.expressions, fragmentFault? e.text = none
  /-- Other names of expressions are names. -/
  expressionAliases : ∀ e ∈ q.clauses.expressions, ∀ other ∈ e.alias?, isName other = true
  /-- Joined tables have names. -/
  joinedTables : ∀ j ∈ q.clauses.joins, isName j.table.name = true
  /-- Join conditions are harmless. -/
  joinConditions : ∀ j ∈ q.clauses.joins, fragmentFault? j.on = none
  /-- Conditions are on columns with names, at any depth. -/
  conditions : ∀ c ∈ q.clauses.conditions, ∀ d, c.Contains d → isName d.predicate.column = true
  /-- Rows are grouped by columns with names. -/
  grouping : ∀ g ∈ q.clauses.grouping?, ∀ column ∈ g.columns, isName column = true
  /-- A condition on groups is harmless. -/
  having : ∀ g ∈ q.clauses.grouping?, ∀ condition ∈ g.having?, fragmentFault? condition = none
  /-- Rows are ordered by columns with names. -/
  ordering : ∀ o ∈ q.clauses.ordering?, ∀ column ∈ o.columns, isName column = true
  /-- The limit is in bounds. -/
  limit : ∀ n ∈ q.clauses.limit?, 1 ≤ n ∧ n ≤ settings.maxLimit

variable {settings : QuerySettings}

/-- **A query is proper** if the query in front has a name and all that is asked of its clauses is
met, and only then. -/
theorem isProper_iff {q : Query} :
    q.IsProper settings ↔
      (∀ front ∈ q.named?, isName front.1 = true) ∧
        ∀ r ∈ q.clauses.requirements, r.IsMet settings := by
  unfold Clauses.requirements Column.requirements Expression.requirements Join.requirements
    Condition.requirements Grouping.requirements
  simp only [List.forall_mem_append, List.forall_mem_flatMap, List.forall_mem_map,
    List.forall_mem_singleton, List.forall_mem_cons, Option.mem_toList, Requirement.IsMet,
    Condition.mem_nodes_iff, imp_and, forall_and]
  constructor
  · intro h
    exact ⟨h.named, ⟨⟨⟨⟨⟨⟨h.table, ⟨h.columns, h.columnAliases⟩, h.distinct⟩, h.expressions,
      h.expressionAliases⟩, h.joinedTables, h.joinConditions⟩, h.conditions⟩, h.grouping,
      h.having⟩, h.ordering⟩, fun n hn => (h.limit n hn).1, fun n hn => (h.limit n hn).2⟩
  · rintro ⟨hnamed, ⟨⟨⟨⟨⟨⟨htable, ⟨hcolumns, hcolumnAliases⟩, hdistinct⟩, hexpressions,
      hexpressionAliases⟩, hjoinedTables, hjoinConditions⟩, hconditions⟩, hgrouping, hhaving⟩,
      hordering⟩, hpositive, hbounded⟩
    exact ⟨hnamed, htable, hcolumns, hcolumnAliases, hdistinct, hexpressions, hexpressionAliases,
      hjoinedTables, hjoinConditions, hconditions, hgrouping, hhaving, hordering,
      fun n hn => ⟨hpositive n hn, hbounded n hn⟩⟩

/-- Clauses that nothing is objected to are proper, as a query of their own. -/
theorem isProper_of_objections {c : Clauses} (h : c.objections settings = []) :
    (plain c).IsProper settings :=
  isProper_iff.mpr ⟨nofun, Clauses.objections_eq_nil_iff.mp h⟩

/-- **What is asked of a query is met** if it and all queries in front of it are proper, and only
then. -/
theorem forall_levels_isProper_iff {q : Query} :
    (∀ p ∈ q.levels, p.IsProper settings) ↔ ∀ r ∈ q.requirements, r.IsMet settings := by
  induction q with
  | plain c =>
    rw [levels, requirements, List.forall_mem_singleton, isProper_iff]
    exact and_iff_right nofun
  | withNamed name inner c ih =>
    have hname : (∀ front ∈ (withNamed name inner c).named?, isName front.1 = true) ↔
        (Requirement.name name).IsMet settings := by
      rw [named?, Requirement.IsMet]
      exact ⟨fun h => h (name, inner) rfl, fun h front hfront => Option.some.inj hfront ▸ h⟩
    rw [levels, requirements, List.forall_mem_cons, List.forall_mem_append,
      List.forall_mem_append, List.forall_mem_singleton, ih, isProper_iff, hname, and_right_comm]
    rfl

/-- **A check finds exactly what is wrong with a query.** It passes a query if, at every level of
the chain, every text is what its place calls for – names and fragments, on conditions at any
depth –, distinct values are counted by aggregations and the limit is in bounds. There is one
objection for each requirement that is not met: first for the name of the query in front, then all
for that query, then for the clauses in their order. A query that does not pass is refused with the
first. -/
theorem check_reports_unmet_requirements (settings : QuerySettings) (q : Query) :
    (q.check settings = .ok () ↔ ∀ p ∈ q.levels, p.IsProper settings) ∧
      List.Forall₂ (Requirement.IsReportedAs settings)
        (q.requirements.filter fun r => ¬r.IsMet settings) (q.objections settings) ∧
      ∀ e, q.check settings = .error e ↔ (q.objections settings).head? = some e := by
  refine ⟨?_, q.reports_objections settings, fun e => ?_⟩
  · rw [check_eq_ok_iff, objections_eq_nil_iff, forall_levels_isProper_iff]
  · unfold check
    cases q.objections settings with
    | nil => exact ⟨nofun, nofun⟩
    | cons objection rest =>
      rw [List.head?_cons]
      exact ⟨fun h => by cases h; rfl, fun h => by cases h; rfl⟩

end Query

end ChartData
