import ChartData.Proofs.BoundLimits
import ChartData.Proofs.BuildRuns

/-!
# What a builder cannot make

Two rules on queries are kept twice over. A builder refuses to select distinct values of a column
that is not aggregated, and the check objects to such a column; a builder refuses a negative limit
or offset, and the type of limits has none. The two do not know of each other, and queries that are
read from data come from neither.

For a query that a builder made, the second look is therefore one too many, and this is what makes
it so: whatever steps a builder takes, and whatever the queries are that it puts in front, as long
as a builder made those (`Query.Built`), no query of the chain breaks either rule. The invariant is
on the clauses of every level (`Clauses.IsFilled`). One step keeps it
(`BuildStep.isFilled_of_apply`), so a run of steps keeps it, and so does a restriction to a dataset;
queries in front bring it along from their own construction.
-/

namespace ChartData

/-! ## Queries from builders -/

/-- **Queries that a builder makes**: those that any steps lead to from a table, where every query
that is put in front is itself made in this way, or made in this way and restricted to a dataset.
Steps that are refused are passed over. -/
inductive Query.Built : Query → Prop where
  | run (table : Table) {steps : List BuildStep}
    (named : ∀ name inner, BuildStep.naming name inner ∈ steps → Built inner) :
    Built (BuildStep.run steps (.ofTable table))
  | restrictedTo (dataset : String) {q : Query} (built : Built q) : Built (q.restrictedTo dataset)

/-- **A column as a builder selects it.** That values are not distinct is not said, and that equal
ones count once is said only of an aggregation. -/
structure Column.IsSelected (c : Column) : Prop where
  /-- Nothing is said of values that are not distinct. -/
  unsaid : c.distinct? ≠ some false
  /-- Distinct values are counted by an aggregation. -/
  aggregated : c.distinct? = some true → c.aggregation?.isSome = true

/-- **Clauses as a builder fills them**: its columns, and counts that a signed number can have. -/
structure Clauses.IsFilled (c : Clauses) : Prop where
  /-- Columns are as a builder selects them. -/
  columns : ∀ column ∈ c.columns, column.IsSelected
  /-- The limit is a signed number. -/
  limit : ∀ n ∈ c.limit?, (n.toNat : Int) ≤ Int64.maxValue.toInt
  /-- The offset is a signed number. -/
  offset : ∀ n ∈ c.offset?, (n.toNat : Int) ≤ Int64.maxValue.toInt

namespace Query

/-- **A query as builders fill it**, at every level of the chain. -/
def IsFilled (q : Query) : Prop := ∀ c ∈ q.chain, c.IsFilled

variable {q : Query}

theorem chain_withClauses (c : Clauses) (q : Query) :
    (q.withClauses c).chain = c :: q.chain.tail := by
  cases q <;> rfl

theorem IsFilled.clauses (h : q.IsFilled) : q.clauses.IsFilled :=
  h q.clauses (by rw [chain_eq_cons]; exact List.mem_cons_self)

/-- What matters of a change of clauses is what becomes of them. -/
theorem IsFilled.mapClauses (h : q.IsFilled) {f : Clauses → Clauses}
    (hf : (f q.clauses).IsFilled) : (q.mapClauses f).IsFilled := by
  unfold IsFilled Query.mapClauses
  rw [chain_withClauses, List.forall_mem_cons]
  exact ⟨hf, fun c hc => h c (List.mem_of_mem_tail hc)⟩

theorem IsFilled.naming (h : q.IsFilled) {name : String} {inner : Query} (hi : inner.IsFilled) :
    (q.naming name inner).IsFilled :=
  List.forall_mem_cons.mpr ⟨h.clauses, hi⟩

theorem isFilled_ofTable (table : Table) : (ofTable table).IsFilled :=
  List.forall_mem_singleton.mpr ⟨nofun, nofun, nofun⟩

theorem IsFilled.restrictedTo (h : q.IsFilled) (dataset : String) :
    (q.restrictedTo dataset).IsFilled :=
  h.mapClauses ⟨h.clauses.columns, h.clauses.limit, h.clauses.offset⟩

end Query

namespace BuildStep

variable {q q' : Query}

/-- A selection that is not refused gives a column as it should be. -/
theorem isSelected_of_not_refused {s : Selection}
    (h : ¬(s.distinct && s.aggregation?.isNone) = true) :
    Column.IsSelected
      ⟨s.name, s.alias?, s.aggregation?, if s.distinct then some true else none⟩ where
  unsaid := by
    dsimp only
    split <;> decide
  aggregated := by
    intro hcounted
    dsimp only at hcounted
    split at hcounted
    case isTrue hdistinct =>
      rw [hdistinct, Bool.true_and, Bool.not_eq_true, Option.isNone_eq_false_iff] at h
      exact h
    case isFalse => cases hcounted

/-- A count from a signed number is no greater than signed numbers get. -/
theorem toNat_ofNat_toInt_le (n : Int64) :
    ((UInt64.ofNat n.toInt.toNat).toNat : Int) ≤ Int64.maxValue.toInt := by
  have hlt := n.toInt_lt
  have hmod := Nat.mod_le n.toInt.toNat (2 ^ 64)
  rw [UInt64.toNat_ofNat']
  show _ ≤ (9223372036854775807 : Int)
  omega

/-- **What a step leaves** is filled as builders do it, if the query before was and so is the query
that the step puts in front, if it does. -/
theorem isFilled_of_apply {s : BuildStep} (h : s.apply q = .ok q') (hq : q.IsFilled)
    (hs : ∀ name inner, s = naming name inner → inner.IsFilled) : q'.IsFilled := by
  have hc := hq.clauses
  -- Three steps change columns and counts, one changes what is in front; the rest change neither.
  cases s with
  | select s =>
    simp only [apply, Query.select] at h
    split at h
    case isTrue => cases h
    case isFalse hrule =>
      cases h
      refine hq.mapClauses ⟨?_, hc.limit, hc.offset⟩
      exact List.forall_mem_append.mpr
        ⟨hc.columns, List.forall_mem_singleton.mpr (isSelected_of_not_refused hrule)⟩
  | limit n =>
    rw [eq_of_map_countOf h]
    refine hq.mapClauses ⟨hc.columns, fun m hm => ?_, hc.offset⟩
    cases hm
    exact toNat_ofNat_toInt_le n
  | offset n =>
    rw [eq_of_map_countOf h]
    refine hq.mapClauses ⟨hc.columns, hc.limit, fun m hm => ?_⟩
    cases hm
    exact toNat_ofNat_toInt_le n
  | naming name inner =>
    cases h
    exact hq.naming (hs name inner rfl)
  | _ =>
    cases h
    exact hq.mapClauses ⟨hc.columns, hc.limit, hc.offset⟩

/-- **What a run of steps leaves** is filled as builders do it, refused steps being passed over. -/
theorem isFilled_run {steps : List BuildStep} (hq : q.IsFilled)
    (hs : ∀ name inner, naming name inner ∈ steps → inner.IsFilled) :
    (run steps q).IsFilled := by
  induction steps generalizing q with
  | nil => exact hq
  | cons s rest ih =>
    have hstep : (s.applyOrKeep q).IsFilled := by
      unfold applyOrKeep
      split
      · next h =>
        exact isFilled_of_apply h hq fun name inner hn => hs name inner (hn ▸ List.mem_cons_self)
      · exact hq
    exact ih hstep fun name inner hn => hs name inner (List.mem_cons_of_mem s hn)

end BuildStep

namespace Query

variable {q : Query}

/-- **What builders make is filled as builders do it**, by the history of its construction. -/
theorem Built.isFilled (h : q.Built) : q.IsFilled := by
  induction h with
  | run table _ ih => exact BuildStep.isFilled_run (isFilled_ofTable table) ih
  | restrictedTo dataset _ ih => exact ih.restrictedTo dataset

/-! ## The rule that the check has as well -/

/-- An aggregation is asked for at the columns of the chain and nowhere else. -/
theorem aggregation_mem_requirements_iff {column : Column} :
    .aggregation column ∈ q.requirements ↔ ∃ c ∈ q.chain, column ∈ c.columns := by
  have hclauses : ∀ c : Clauses, .aggregation column ∈ c.requirements ↔ column ∈ c.columns := by
    intro c
    simp [Clauses.requirements, Column.requirements, Expression.requirements, Join.requirements,
      Condition.requirements, Grouping.requirements]
  induction q with
  | plain c => simp [requirements, chain, hclauses]
  | withNamed name inner c ih => simp [requirements, chain, hclauses, ih, or_comm]

/-- **The check objects to misplaced distinct values** only where there are some. -/
theorem exists_of_distinct_mem_objections {settings : QuerySettings} {name : String}
    (h : .distinctWithoutAggregation name ∈ q.objections settings) :
    ∃ c ∈ q.chain, ∃ column ∈ c.columns,
      column.distinct? = some true ∧ column.aggregation?.isSome = false := by
  obtain ⟨r, hr, hunmet, hreport⟩ := (q.reports_objections settings).exists_of_mem h
  cases hreport with
  | aggregation column =>
    obtain ⟨c, hc, hcolumn⟩ := aggregation_mem_requirements_iff.mp hr
    obtain ⟨hdistinct, hnone⟩ := Classical.not_imp.mp hunmet
    exact ⟨c, hc, column, hcolumn, hdistinct, eq_false_of_ne_true hnone⟩

/-- **A query that a builder made keeps the rules on distinct values and counts** at every level of
its chain, and the check has nothing to object to it on their account, whatever the settings. -/
theorem built_keeps_rules (h : q.Built) :
    (∀ (settings : QuerySettings) (name : String),
        .distinctWithoutAggregation name ∉ q.objections settings) ∧
      ∀ c ∈ q.chain,
        (∀ column ∈ c.columns, column.distinct? ≠ some false ∧
          (column.distinct? = some true → column.aggregation?.isSome = true)) ∧
        (∀ n ∈ c.limit?, (n.toNat : Int) ≤ Int64.maxValue.toInt) ∧
        ∀ n ∈ c.offset?, (n.toNat : Int) ≤ Int64.maxValue.toInt := by
  have hfilled := h.isFilled
  refine ⟨fun settings name hmem => ?_, fun c hc => ?_⟩
  · obtain ⟨c, hc, column, hcolumn, hdistinct, hnone⟩ := exists_of_distinct_mem_objections hmem
    rw [((hfilled c hc).columns column hcolumn).aggregated hdistinct] at hnone
    cases hnone
  · exact ⟨fun column hcolumn => ⟨((hfilled c hc).columns column hcolumn).unsaid,
      ((hfilled c hc).columns column hcolumn).aggregated⟩, (hfilled c hc).limit,
      (hfilled c hc).offset⟩

/-- A query in front that was restricted to a dataset, with the greatest limit that a step can set,
and on either level a step that breaks a rule and is refused. -/
theorem built_keeps_rules_of_refused_steps :
    ∃ q : Query, q.Built ∧ q.depth = 1 ∧
      q.chain.flatMap Clauses.columns =
        [⟨"state", none, none, none⟩, ⟨"id", some "n", some .count, some true⟩] ∧
      q.chain.map Clauses.limit? = [none, some 9223372036854775807] ∧
      (∀ name, .distinctWithoutAggregation name ∉ q.objections default) ∧
      ∀ c ∈ q.chain, ∀ n ∈ c.limit?, (n.toNat : Int) ≤ Int64.maxValue.toInt := by
  let inner := BuildStep.run
    [.select ⟨"id", none, none, true⟩, .select ⟨"id", some "n", some .count, true⟩,
      .limit Int64.maxValue] (ofTable default)
  let q := BuildStep.run
    [.select ⟨"state", none, none, false⟩, .naming "recent" (inner.restrictedTo "d"),
      .limit (-1)] (ofTable (.custom "recent"))
  have hinner : inner.Built := .run default (by simp)
  have hq : q.Built := by
    refine .run (.custom "recent") fun name named hmem => ?_
    simp only [List.mem_cons, BuildStep.naming.injEq, List.not_mem_nil, or_false, reduceCtorEq,
      false_or] at hmem
    rw [hmem.2]
    exact hinner.restrictedTo "d"
  obtain ⟨hobjections, hchain⟩ := built_keeps_rules hq
  exact ⟨q, hq, rfl, rfl, rfl, hobjections default, fun c hc => (hchain c hc).2.1⟩

end Query

end ChartData
