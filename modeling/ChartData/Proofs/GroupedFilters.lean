import ChartData.Proofs.DatasetRestriction

/-!
# One group in place of several conditions

Several conditions can be asked for one by one, or made into one *all* group and asked for at once.
The two are written in different ways – a group by the recursion over its tree, the conditions of a
query by the clause that lists them – and are looked at by the check at different depths. They agree
all the same: what is objected to, what is bound and what is written are the same, except that a
group of more than one condition stands in parentheses (`Query.filter_group_like_filters`).

The first condition of a group lends its predicate only. So what stands on the other side is that
predicate alone, whatever group the condition headed, and the others as they are.
-/

namespace ChartData

/-! ## Conditions asked for one by one -/

/-- **Asking for conditions one by one** is asking for all of them, whatever was asked for
before. -/
theorem BuildStep.run_map_filter (cs : List Condition) (q : Query) :
    run (cs.map .filter) q = q.filterAll cs := by
  induction cs generalizing q with
  | nil => exact q.filterAll_nil.symm
  | cons c rest ih =>
    have hstep : run ((c :: rest).map .filter) q = run (rest.map .filter) (q.filter c) := rfl
    rw [hstep, ih, Query.filter_eq_filterAll, ← Query.filterAll_append, List.singleton_append]

namespace Query

/-- **A statement with more conditions** is what it was around them: before them the connective that
they call for, behind them what was there. -/
theorem statement_filterAll_cons (settings : QuerySettings) (c : Condition) (cs : List Condition)
    (q : Query) :
    (q.filterAll (c :: cs)).statement settings =
      q.piecesBeforeWhere settings ++ q.clauses.wherePieces ++
          [.text (if q.clauses.conditions = [] then " WHERE " else " AND ")] ++
        (Condition.conjunctionTokens (c :: cs)).flatMap WhereToken.pieces ++
        q.clauses.piecesAfterWhere settings := by
  rw [statement_eq, piecesBeforeWhere_filterAll, clauses_filterAll,
    Clauses.wherePieces_append_cons, ← List.append_assoc]
  simp only [List.append_assoc, List.singleton_append]
  rfl

end Query

/-! ## The group -/

namespace Statement

/-- Parentheses around a statement bind nothing. -/
theorem parameters_parenthesized (s : Statement) :
    parameters ([.text "("] ++ s ++ [.text ")"]) = s.parameters := by
  rw [parameters_append, parameters_append]
  exact List.append_nil s.parameters

/-- Parentheses are written on either side of a statement. -/
theorem text_parenthesized (s : Statement) :
    text ([.text "("] ++ s ++ [.text ")"]) = "(" ++ s.text ++ ")" := by
  rw [text_append, text_append, text_singleton, text_singleton]

end Statement

namespace Condition

/-- An *all* group brings the objections of its predicate and of its conditions. -/
theorem objections_all (p : Predicate) (group : List Condition) :
    (all p group).objections = (leaf p :: group).flatMap objections := by
  unfold objections
  rw [nodes_eq, List.flatMap_cons, List.flatMap_assoc, List.flatMap_cons, nodes,
    List.flatMap_singleton]
  rfl

/-- **An *all* group is written as its predicate and its conditions are**, in parentheses if it has
any. -/
theorem pieces_all (p : Predicate) (group : List Condition) :
    (all p group).pieces =
      if group = [] then (conjunctionTokens (leaf p :: group)).flatMap WhereToken.pieces
      else [.text "("] ++ (conjunctionTokens (leaf p :: group)).flatMap WhereToken.pieces ++
        [.text ")"] := by
  have hleaf : (leaf p).pieces = p.pieces := List.flatMap_singleton _ _
  have hgroup : (all p group).group = group := rfl
  rw [pieces_eq, hgroup, conjunctionPieces_cons, hleaf]
  split
  case isTrue hnone =>
    rw [hnone]
    exact (List.append_nil _).symm
  case isFalse => rfl

end Condition

namespace Query

/-- **A group can be asked for in place of its conditions.** Making an *all* group of conditions
succeeds if there is a first one. Asking for the group, or for the predicate of the first condition
and then for the others one by one, gives two queries with the same objections and the same
parameters. Their texts are the same before the conditions, in them and behind them, and the group
has one pair of parentheses around the conditions if there are more than one. -/
theorem filter_group_like_filters (settings : QuerySettings) (q : Query) (first : Condition)
    (others : List Condition) :
    ∃ group, Condition.grouped .all (first :: others) = .ok group ∧
      let atOnce := BuildStep.run [.filter group] q
      let oneByOne := BuildStep.run (.filter (.leaf first.predicate) :: others.map .filter) q
      let before := q.piecesBeforeWhere settings ++ q.clauses.wherePieces ++
        [.text (if q.clauses.conditions = [] then " WHERE " else " AND ")]
      let conditions :=
        (Condition.conjunctionTokens (.leaf first.predicate :: others)).flatMap WhereToken.pieces
      let after := q.clauses.piecesAfterWhere settings
      atOnce.objections settings = oneByOne.objections settings ∧
        (atOnce.statement settings).parameters = (oneByOne.statement settings).parameters ∧
        (oneByOne.statement settings).text =
          Statement.text before ++ Statement.text conditions ++ Statement.text after ∧
        (atOnce.statement settings).text =
          Statement.text before ++
            (if others = [] then Statement.text conditions
              else "(" ++ Statement.text conditions ++ ")") ++
            Statement.text after := by
  refine ⟨.all first.predicate others, rfl, ?_⟩
  intro atOnce oneByOne before conditions after
  have hatOnce : atOnce = q.filterAll [.all first.predicate others] :=
    BuildStep.run_map_filter [_] q
  have honeByOne : oneByOne = q.filterAll (.leaf first.predicate :: others) :=
    BuildStep.run_map_filter (_ :: others) q
  have hseveral : oneByOne.statement settings = before ++ conditions ++ after := by
    rw [honeByOne]
    exact q.statement_filterAll_cons settings _ others
  have hgroup : atOnce.statement settings =
      before ++ (if others = [] then conditions else [.text "("] ++ conditions ++ [.text ")"]) ++
        after := by
    rw [hatOnce, statement_filterAll_cons, ← Condition.pieces_all,
      Condition.conjunctionPieces_cons, List.flatMap_nil, List.append_nil]
  clear_value before conditions after
  refine ⟨?_, ?_, ?_, ?_⟩
  · rw [hatOnce, honeByOne]
    refine objections_filterAll_congr ?_
    rw [List.flatMap_singleton, Condition.objections_all]
  · rw [hgroup, hseveral, Statement.parameters_append, Statement.parameters_append,
      Statement.parameters_append _ after, Statement.parameters_append before]
    split
    · rfl
    · rw [Statement.parameters_parenthesized]
  · rw [hseveral, Statement.text_append, Statement.text_append]
  · rw [hgroup, Statement.text_append, Statement.text_append]
    split
    · rfl
    · rw [Statement.text_parenthesized]

/-- The group of the first condition is not kept, that of the second is. -/
example :
    let c : Condition := .any ⟨"c", .equal, .boolean true⟩ [.leaf ⟨"d", .isNull, .null⟩]
    let group := (Condition.grouped .all [.any ⟨"a", .isNull, .null⟩ [c], c]).toOption
    group.map (fun g => (((ofTable (.custom "t")).filter g).statement default).text) =
      some "SELECT * FROM ? WHERE (a IS NULL AND (c = ? OR d IS NULL)) LIMIT ?" := by
  decide +kernel

end Query

end ChartData
