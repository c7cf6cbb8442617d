import ChartData.Proofs.BoundParameters
import ChartData.Proofs.CheckedTexts
import ChartData.Proofs.WhereMeaning
import ChartData.Query.BuildStep

/-!
# A query restricted to one dataset

A restriction to a dataset is one more condition at the end of a query's own, so everything about it
is about such a condition. A statement consists of what stands before its conditions, the conditions
and what stands behind them (`Query.statement_eq`). One more condition leaves the first and the last
as they are, and the conditions go on with it: behind `AND` if there are any, and else as the first.

That `AND` cannot be weakened by an `OR` before it, for a group is read as one operand, whatever is
in it. So the clause says what it said, and the condition besides.
-/

namespace ChartData

/-! ## A statement around its conditions -/

namespace Clauses

/-- What is selected, and the tables. -/
def sourcePieces (c : Clauses) : Statement :=
  [.text (c.selectText ++ " FROM "), .name c.table.name] ++ c.joins.flatMap Join.pieces

/-- The limit that holds and the offset. -/
def counts (settings : QuerySettings) (c : Clauses) : List UInt64 :=
  (c.effectiveLimit? settings).toList ++ c.offset?.toList

/-- **What stands behind the conditions**: grouping, order, limit and offset. -/
def piecesAfterWhere (settings : QuerySettings) (c : Clauses) : Statement :=
  [.text (c.groupText ++ c.orderText)] ++ countPieces " LIMIT " (c.effectiveLimit? settings) ++
    countPieces " OFFSET " c.offset?

theorem pieces_eq (settings : QuerySettings) (c : Clauses) :
    c.pieces settings = c.sourcePieces ++ c.wherePieces ++ c.piecesAfterWhere settings := by
  unfold pieces piecesAfterWhere
  rw [List.append_assoc, List.append_assoc, ← List.append_assoc [_]]
  rfl

/-- Behind the conditions, nothing is bound but the limit and the offset. -/
theorem parameters_piecesAfterWhere (settings : QuerySettings) (c : Clauses) :
    (c.piecesAfterWhere settings).parameters =
      (c.counts settings).map fun n => .value (.ofUInt64 n) := by
  unfold piecesAfterWhere counts
  rw [Statement.parameters_append, Statement.parameters_append, parameters_countPieces,
    parameters_countPieces, List.map_append]
  rfl

end Clauses

namespace Query

/-- **What stands before the conditions of a query**: the named query in front, what is selected,
and the tables. -/
def piecesBeforeWhere (settings : QuerySettings) : Query → Statement
  | plain c => c.sourcePieces
  | withNamed name inner c =>
    [.text "WITH ", .name name, .text " AS ("] ++ inner.statement settings ++ [.text ") "] ++
      c.sourcePieces

/-- **A statement is put together** from what stands before its conditions, the conditions and what
stands behind them. -/
theorem statement_eq (settings : QuerySettings) (q : Query) :
    q.statement settings =
      q.piecesBeforeWhere settings ++ q.clauses.wherePieces ++
        q.clauses.piecesAfterWhere settings := by
  cases q with
  | plain c => exact c.pieces_eq settings
  | withNamed name inner c =>
    rw [statement, c.pieces_eq, ← List.append_assoc, ← List.append_assoc]
    rfl

/-! ## More conditions -/

/-- **Ask for several conditions to hold as well.** -/
def filterAll (conditions : List Condition) (q : Query) : Query :=
  q.mapClauses fun c => { c with conditions := c.conditions ++ conditions }

theorem filter_eq_filterAll (c : Condition) (q : Query) : q.filter c = q.filterAll [c] := rfl

@[simp] theorem filterAll_nil (q : Query) : q.filterAll [] = q := by
  cases q <;> simp [filterAll, mapClauses, withClauses, clauses]

theorem clauses_filterAll (cs : List Condition) (q : Query) :
    (q.filterAll cs).clauses = { q.clauses with conditions := q.clauses.conditions ++ cs } :=
  clauses_withClauses _ q

/-- Some conditions and then others are all of them in a row. -/
theorem filterAll_append (cs ds : List Condition) (q : Query) :
    q.filterAll (cs ++ ds) = (q.filterAll cs).filterAll ds := by
  cases q <;> simp [filterAll, mapClauses, withClauses, clauses]

theorem piecesBeforeWhere_filterAll (settings : QuerySettings) (cs : List Condition) (q : Query) :
    (q.filterAll cs).piecesBeforeWhere settings = q.piecesBeforeWhere settings := by
  cases q <;> rfl

theorem piecesBeforeWhere_filter (settings : QuerySettings) (c : Condition) (q : Query) :
    (q.filter c).piecesBeforeWhere settings = q.piecesBeforeWhere settings :=
  q.piecesBeforeWhere_filterAll settings [c]

theorem clauses_filter (c : Condition) (q : Query) :
    (q.filter c).clauses = { q.clauses with conditions := q.clauses.conditions ++ [c] } :=
  q.clauses_filterAll [c]

end Query

/-- **Conditions go on with more** behind `AND`; if there are none, the first of these is the
first. -/
theorem Clauses.wherePieces_append_cons (c : Clauses) (d : Condition) (ds : List Condition) :
    wherePieces { c with conditions := c.conditions ++ d :: ds } =
      c.wherePieces ++ .text (if c.conditions = [] then " WHERE " else " AND ") ::
        (Condition.conjunctionTokens (d :: ds)).flatMap WhereToken.pieces := by
  rw [Condition.conjunctionPieces_cons]
  unfold wherePieces
  cases c.conditions with
  | nil =>
    show .text " WHERE " :: (Condition.conjunctionTokens (d :: ds)).flatMap WhereToken.pieces = _
    rw [Condition.conjunctionPieces_cons]
    rfl
  | cons first rest =>
    rw [List.cons_append, Condition.conjunctionPieces_cons, Condition.conjunctionPieces_cons,
      List.flatMap_append, List.flatMap_cons, ← List.append_assoc]
    rfl

/-- **Conditions go on with one more** behind `AND`; if there are none, it is the first. -/
theorem Clauses.wherePieces_append (c : Clauses) (d : Condition) :
    wherePieces { c with conditions := c.conditions ++ [d] } =
      c.wherePieces ++ .text (if c.conditions = [] then " WHERE " else " AND ") :: d.pieces := by
  rw [wherePieces_append_cons, Condition.conjunctionPieces_cons, List.flatMap_nil, List.append_nil]

namespace Query

variable {settings : QuerySettings} {q : Query}

/-- **What one more condition binds** comes right before the limit and the offset. -/
theorem parameters_filter (settings : QuerySettings) (c : Condition) (q : Query) :
    ∃ before : List Parameter,
      (q.statement settings).parameters =
        before ++ (q.clauses.counts settings).map (fun n => .value (.ofUInt64 n)) ∧
      ((q.filter c).statement settings).parameters =
        before ++ c.literals.map .value ++
          (q.clauses.counts settings).map fun n => .value (.ofUInt64 n) := by
  refine ⟨(q.piecesBeforeWhere settings ++ q.clauses.wherePieces).parameters, ?_, ?_⟩
  · rw [statement_eq, Statement.parameters_append, Clauses.parameters_piecesAfterWhere]
  · rw [statement_eq, clauses_filter, Clauses.wherePieces_append, piecesBeforeWhere_filter,
      ← c.parameters_pieces, ← List.append_assoc, Statement.parameters_append,
      Statement.parameters_append, Clauses.parameters_piecesAfterWhere]
    rfl

/-- **What is objected to in conditions** is all that they bring to the objections to a query. -/
theorem objections_filterAll_congr {cs ds : List Condition}
    (h : cs.flatMap Condition.objections = ds.flatMap Condition.objections) :
    (q.filterAll cs).objections settings = (q.filterAll ds).objections settings := by
  have hclauses : (q.filterAll cs).clauses.objections settings =
      (q.filterAll ds).clauses.objections settings := by
    rw [clauses_filterAll, clauses_filterAll]
    unfold Clauses.objections
    rw [List.flatMap_append, List.flatMap_append, h]
  cases q with
  | plain => exact hclauses
  | withNamed name inner d =>
    exact congrArg (nameObjections name ++ inner.objections settings ++ ·) hclauses

/-- A condition without objections brings none to a query. -/
theorem objections_filter {c : Condition} (h : c.objections = []) :
    (q.filter c).objections settings = q.objections settings := by
  have hnone : [c].flatMap Condition.objections = [].flatMap Condition.objections := by
    rw [List.flatMap_singleton, h, List.flatMap_nil]
  rw [filter_eq_filterAll, objections_filterAll_congr hnone, filterAll_nil]

/-- **One more condition is one more thing that is said.** -/
theorem exists_readsWhere_filter (c : Condition) (q : Query) :
    ∃ e, ReadsWhere (q.filter c).clauses.wherePieces e ∧ ∀ truth,
      e.eval (Predicate.writtenTruth truth) =
        (q.clauses.conditions.all (Condition.meaning truth) && c.meaning truth) := by
  obtain ⟨e, he, hv⟩ := (q.filter c).clauses.exists_readsWhere
  refine ⟨e, he, fun truth => ?_⟩
  rw [hv, clauses_filter, List.all_append, List.all_cons, List.all_nil, Bool.and_true]

/-! ## The restriction -/

/-- The condition that a row belongs to a dataset. -/
def belongsTo (dataset : String) : Condition := .compare datasetColumn .equal (.string dataset)

theorem objections_belongsTo (dataset : String) : (belongsTo dataset).objections = [] := by
  rw [((belongsTo dataset).reports_objections default).eq_nil_iff]
  exact List.forall_mem_singleton.mpr (by decide : isName datasetColumn = true)

theorem restrictedTo_eq_filter (dataset : String) (q : Query) :
    q.restrictedTo dataset = q.filter (belongsTo dataset) :=
  rfl

/-- **A restriction to a dataset holds beside all that a query says itself**, whatever groups its
conditions are in. The clause of conditions says what the query's own conditions say and that the
dataset is the one given, by the precedence of SQL and however it is read. Nothing else is written
otherwise, before the conditions or behind them; the dataset is bound right before the limit and the
offset; and there is no other objection than before. -/
theorem restrictedTo_says_dataset (settings : QuerySettings) (dataset : String) (q : Query) :
    -- what the conditions are read as
    ((∃ e, ReadsWhere (q.restrictedTo dataset).clauses.wherePieces e ∧
        ∀ truth : Predicate → Bool,
          e.eval (Predicate.writtenTruth truth) =
            (q.clauses.conditions.all (Condition.meaning truth) &&
              truth ⟨"dataset_id", .equal, .string dataset⟩)) ∧
      ∀ e, ReadsWhere (q.restrictedTo dataset).clauses.wherePieces e →
        ∀ truth : Statement → Bool,
          e.eval (Predicate.writtenTruth fun p => truth p.pieces) =
            (q.clauses.conditions.all (Condition.meaning fun p => truth p.pieces) &&
              truth [.text "dataset_id = ", .literal (.string dataset)])) ∧
    -- what is written
    (q.statement settings =
        q.piecesBeforeWhere settings ++ q.clauses.wherePieces ++
          q.clauses.piecesAfterWhere settings ∧
      (q.restrictedTo dataset).statement settings =
        q.piecesBeforeWhere settings ++ (q.restrictedTo dataset).clauses.wherePieces ++
          q.clauses.piecesAfterWhere settings ∧
      (q.restrictedTo dataset).clauses.wherePieces =
        q.clauses.wherePieces ++
          [.text (if q.clauses.conditions = [] then " WHERE " else " AND "),
            .text "dataset_id = ", .literal (.string dataset)]) ∧
    -- what is bound
    (∃ before : List Parameter,
      (q.statement settings).parameters =
        before ++ (q.clauses.counts settings).map (fun n => .value (.ofUInt64 n)) ∧
      ((q.restrictedTo dataset).statement settings).parameters =
        before ++ [.value (.string dataset)] ++
          (q.clauses.counts settings).map fun n => .value (.ofUInt64 n)) ∧
    -- what is objected to
    (q.restrictedTo dataset).objections settings = q.objections settings := by
  rw [restrictedTo_eq_filter]
  refine ⟨⟨q.exists_readsWhere_filter _, fun e he truth => ?_⟩,
    ⟨q.statement_eq settings, ?_, ?_⟩, q.parameters_filter settings _,
    objections_filter (objections_belongsTo dataset)⟩
  · obtain ⟨f, hf, hv⟩ := q.exists_readsWhere_filter (belongsTo dataset)
    -- A comparison of two numbers has its value by the way it is written, like all else.
    exact (he.eval_eq hf fun s => s.constant?.getD (truth s)).trans (hv _)
  · rw [statement_eq, piecesBeforeWhere_filter, clauses_filter]
    rfl
  · rw [clauses_filter, Clauses.wherePieces_append]
    rfl

/-- An *any* group with a named query in front, which has a dataset of its own, and a limit and an
offset behind it. -/
theorem restrictedTo_says_dataset_beside_any :
    ∃ q : Query,
      (q.statement default).text =
        "WITH ? AS (SELECT * FROM ? WHERE dataset_id = ? LIMIT ?) SELECT * FROM ?" ++
          " WHERE (a = ? OR b IS NULL) LIMIT ? OFFSET ?" ∧
      ((q.restrictedTo "d").statement default).text =
        "WITH ? AS (SELECT * FROM ? WHERE dataset_id = ? LIMIT ?) SELECT * FROM ?" ++
          " WHERE (a = ? OR b IS NULL) AND dataset_id = ? LIMIT ? OFFSET ?" ∧
      ((q.restrictedTo "d").statement default).parameters =
        [.identifier "recent", .identifier "orders", .value (.string "c"),
          .value (.ofUInt64 20), .identifier "recent", .value (.boolean true),
          .value (.string "d"), .value (.ofUInt64 10), .value (.ofUInt64 5)] ∧
      ∃ e, ReadsWhere (q.restrictedTo "d").clauses.wherePieces e ∧
        ∀ truth : Statement → Bool,
          e.eval (Predicate.writtenTruth fun p => truth p.pieces) =
            ((truth [.text "a = ", .literal (.boolean true)] || truth [.text "b IS NULL"]) &&
              truth [.text "dataset_id = ", .literal (.string "d")]) := by
  let inner := (ofTable (.custom "orders")).restrictedTo "c"
  let outer : Clauses :=
    { Clauses.ofTable (.custom "recent") with
      conditions := [.any ⟨"a", .equal, .boolean true⟩ [.leaf ⟨"b", .isNull, .null⟩]]
      limit? := some 10
      offset? := some 5 }
  let q := withNamed "recent" inner outer
  have h := q.restrictedTo_says_dataset default "d"
  obtain ⟨e, he, -⟩ := h.1.1
  refine ⟨q, by decide +kernel, by decide +kernel, rfl, e, he, fun truth => ?_⟩
  rw [h.1.2 e he truth]
  show ((truth _ || (truth _ || false)) && true && truth _) = _
  rw [Bool.or_false, Bool.and_true]
  rfl

end Query

end ChartData
