import ChartData.Query.Check
import Mathlib.Data.List.Forall2

/-!
# What is asked of a query

A query may be sent when each of its texts is what its place calls for, no column counts distinct
values for nothing and its limit is in bounds, and when the same is true of every query in front of
it. The check is one walk through all of that, with a dozen places at which something could be
forgotten or reported twice.

So the places are listed here as data. `Query.requirements` has one requirement for each of them, in
the order in which a query is read: the name of the query in front, that query, and then the clauses
one by one. A requirement is met or not, and one that is not is reported in one way
(`Requirement.IsReportedAs`). The objections to a query are the reports of the requirements that are
not met, one for one and in order (`Query.reports_objections`), so there are none exactly if all
requirements are met (`Query.objections_eq_nil_iff`).
-/

namespace ChartData

/-! ## Requirements -/

/-- **What is asked at one place of a query.** -/
inductive Requirement where
  /-- A text has to be a name. -/
  | name (text : String)
  /-- A text has to be a harmless fragment. -/
  | fragment (text : String)
  /-- A column has to be aggregated if equal values are to count once. -/
  | aggregation (column : Column)
  /-- A limit has to be in bounds. -/
  | limit (n : UInt64)

namespace Requirement

variable {settings : QuerySettings}

/-- **Whether a requirement is met**, given the settings. -/
def IsMet (settings : QuerySettings) : Requirement → Prop
  | name s => isName s = true
  | fragment s => fragmentFault? s = none
  | aggregation c => c.distinct? = some true → c.aggregation?.isSome = true
  | limit n => 1 ≤ n ∧ n ≤ settings.maxLimit

instance (settings : QuerySettings) : DecidablePred (IsMet settings)
  | name s => inferInstanceAs (Decidable (isName s = true))
  | fragment s => inferInstanceAs (Decidable (fragmentFault? s = none))
  | aggregation c =>
    inferInstanceAs (Decidable (c.distinct? = some true → c.aggregation?.isSome = true))
  | limit n => inferInstanceAs (Decidable (1 ≤ n ∧ n ≤ settings.maxLimit))

/-- **How a requirement that is not met is reported.** -/
inductive IsReportedAs (settings : QuerySettings) : Requirement → Error → Prop where
  | name (s : String) : IsReportedAs settings (.name s) (.improperName s)
  | fragment {s : String} {fault : FragmentFault} (found : fragmentFault? s = some fault) :
    IsReportedAs settings (.fragment s) (.improperFragment s fault)
  | aggregation (c : Column) :
    IsReportedAs settings (.aggregation c) (.distinctWithoutAggregation c.name)
  | limit (n : UInt64) :
    IsReportedAs settings (.limit n) (.limitOutsideBounds n settings.maxLimit)

/-- **Errors report requirements** if they are the reports of those that are not met, one for one
and in the same order. -/
def Reports (settings : QuerySettings) (requirements : List Requirement) (errors : List Error) :
    Prop :=
  List.Forall₂ (IsReportedAs settings) (requirements.filter fun r => ¬r.IsMet settings) errors

namespace Reports

variable {rs rs' : List Requirement} {es es' : List Error}

theorem nil : Reports settings [] [] := List.Forall₂.nil

/-- A requirement that is met goes without a report. -/
theorem ofMet {r : Requirement} (h : r.IsMet settings) : Reports settings [r] [] := by
  unfold Reports
  rw [List.filter_cons_of_neg (by simpa using h)]
  exact .nil

/-- One that is not met has its one. -/
theorem ofUnmet {r : Requirement} {e : Error} (h : ¬r.IsMet settings)
    (he : r.IsReportedAs settings e) : Reports settings [r] [e] := by
  unfold Reports
  rw [List.filter_cons_of_pos (by simpa using h)]
  exact .cons he .nil

theorem append (h : Reports settings rs es) (h' : Reports settings rs' es') :
    Reports settings (rs ++ rs') (es ++ es') := by
  unfold Reports
  rw [List.filter_append]
  exact List.rel_append h h'

theorem flatMap {α : Type} {xs : List α} {f : α → List Requirement} {g : α → List Error}
    (h : ∀ x ∈ xs, Reports settings (f x) (g x)) :
    Reports settings (xs.flatMap f) (xs.flatMap g) := by
  induction xs with
  | nil => exact nil
  | cons x rest ih =>
    rw [List.flatMap_cons, List.flatMap_cons]
    exact (h x List.mem_cons_self).append (ih fun y hy => h y (List.mem_cons_of_mem x hy))

theorem map {α : Type} {xs : List α} {f : α → Requirement} {g : α → List Error}
    (h : ∀ x, Reports settings [f x] (g x)) : Reports settings (xs.map f) (xs.flatMap g) := by
  rw [List.map_eq_flatMap]
  exact flatMap fun x _ => h x

/-- **There is nothing to report** if all requirements are met, and only then. -/
theorem eq_nil_iff (h : Reports settings rs es) : es = [] ↔ ∀ r ∈ rs, r.IsMet settings := by
  rw [← List.length_eq_zero_iff, ← h.length_eq, List.length_eq_zero_iff, List.filter_eq_nil_iff]
  simp only [decide_not, Bool.not_eq_eq_eq_not, Bool.not_true, decide_eq_false_iff_not,
    Classical.not_not]

/-- **What is reported** is a requirement that is not met. -/
theorem exists_of_mem (h : Reports settings rs es) {e : Error} (he : e ∈ es) :
    ∃ r ∈ rs, ¬r.IsMet settings ∧ r.IsReportedAs settings e := by
  obtain ⟨i, hi, rfl⟩ := List.getElem_of_mem he
  have hi' := h.length_eq ▸ hi
  have hr := List.mem_filter.mp (List.getElem_mem hi')
  exact ⟨_, hr.1, of_decide_eq_true hr.2, h.get hi' hi⟩

end Reports

end Requirement

/-! ## The requirements of a query -/

/-- What is asked of a column: its name, its other name, and that it is aggregated if need be. -/
def Column.requirements (c : Column) : List Requirement :=
  [.name c.name] ++ c.alias?.toList.map .name ++ [.aggregation c]

/-- What is asked of an expression. -/
def Expression.requirements (e : Expression) : List Requirement :=
  [.fragment e.text] ++ e.alias?.toList.map .name

/-- What is asked of a join. -/
def Join.requirements (j : Join) : List Requirement := [.name j.table.name, .fragment j.on]

/-- What is asked of a condition: the columns of all its nodes. -/
def Condition.requirements (c : Condition) : List Requirement :=
  c.nodes.map fun node => .name node.predicate.column

/-- What is asked of a grouping. -/
def Grouping.requirements (g : Grouping) : List Requirement :=
  g.columns.map .name ++ g.having?.toList.map .fragment

/-- **What is asked of clauses**, clause by clause. -/
def Clauses.requirements (c : Clauses) : List Requirement :=
  [.name c.table.name] ++ c.columns.flatMap Column.requirements ++
    c.expressions.flatMap Expression.requirements ++ c.joins.flatMap Join.requirements ++
    c.conditions.flatMap Condition.requirements ++
    c.grouping?.toList.flatMap Grouping.requirements ++
    c.ordering?.toList.flatMap (·.columns.map .name) ++ c.limit?.toList.map .limit

/-- **What is asked of a query**: first the name of the query in front, then that query, then its
own clauses. -/
def Query.requirements : Query → List Requirement
  | plain c => c.requirements
  | withNamed name inner c => [.name name] ++ inner.requirements ++ c.requirements

/-! ## Objections are reports -/

section Objections

open Requirement

variable (settings : QuerySettings)

theorem report_nameObjections (s : String) : Reports settings [.name s] (nameObjections s) := by
  unfold nameObjections
  split
  case isTrue h => exact .ofMet h
  case isFalse h => exact .ofUnmet h (.name s)

theorem report_fragmentObjections (s : String) :
    Reports settings [.fragment s] (fragmentObjections s) := by
  unfold fragmentObjections
  cases h : fragmentFault? s with
  | none => exact .ofMet h
  | some fault =>
    refine .ofUnmet (fun hmet => ?_) (.fragment h)
    rw [show fragmentFault? s = none from hmet] at h
    cases h

theorem one_le_iff_ne_zero {n : UInt64} : 1 ≤ n ↔ n ≠ 0 := by
  rw [UInt64.le_iff_toNat_le, Ne, ← UInt64.toNat_inj]
  exact Nat.one_le_iff_ne_zero

theorem report_limitObjections (n : UInt64) :
    Reports settings [.limit n] (limitObjections settings.maxLimit n) := by
  have hmet : (Requirement.limit n).IsMet settings ↔ ¬(n = 0 ∨ settings.maxLimit < n) := by
    rw [not_or, UInt64.not_lt, ← Ne, ← one_le_iff_ne_zero]
    rfl
  unfold limitObjections
  split
  case isTrue h => exact .ofUnmet (fun hn => hmet.mp hn h) (.limit n)
  case isFalse h => exact .ofMet (hmet.mpr h)

theorem Column.reports_objections (c : Column) :
    Reports settings c.requirements c.objections := by
  have hdistinct : (Requirement.aggregation c).IsMet settings ↔ c.isMisplacedDistinct = false := by
    show (c.distinct? = some true → c.aggregation?.isSome = true) ↔ _
    unfold Column.isMisplacedDistinct
    cases c.aggregation? <;> simp
  refine ((report_nameObjections settings c.name).append
    (.map (report_nameObjections settings))).append ?_
  split
  case isTrue h =>
    exact .ofUnmet (fun hmet => by rw [hdistinct.mp hmet] at h; cases h) (.aggregation c)
  case isFalse h => exact .ofMet (hdistinct.mpr (eq_false_of_ne_true h))

theorem Expression.reports_objections (e : Expression) :
    Reports settings e.requirements e.objections :=
  (report_fragmentObjections settings e.text).append (.map (report_nameObjections settings))

theorem Join.reports_objections (j : Join) : Reports settings j.requirements j.objections :=
  (report_nameObjections settings j.table.name).append (report_fragmentObjections settings j.on)

theorem Condition.reports_objections (c : Condition) :
    Reports settings c.requirements c.objections :=
  .map fun node => report_nameObjections settings node.predicate.column

theorem Grouping.reports_objections (g : Grouping) :
    Reports settings g.requirements g.objections :=
  (Reports.map (report_nameObjections settings)).append (.map (report_fragmentObjections settings))

theorem RowOrder.reports_objections (o : RowOrder) :
    Reports settings (o.columns.map .name) o.objections :=
  .map (report_nameObjections settings)

theorem Clauses.reports_objections (c : Clauses) :
    Reports settings c.requirements (c.objections settings) :=
  ((((((((report_nameObjections settings c.table.name).append
    (.flatMap fun column _ => column.reports_objections settings)).append
    (.flatMap fun e _ => e.reports_objections settings)).append
    (.flatMap fun j _ => j.reports_objections settings)).append
    (.flatMap fun d _ => d.reports_objections settings)).append
    (.flatMap fun g _ => g.reports_objections settings)).append
    (.flatMap fun o _ => o.reports_objections settings)).append
    (.map (report_limitObjections settings)))

/-- **The objections to a query are the reports of what is asked of it and not met.** -/
theorem Query.reports_objections (q : Query) :
    Reports settings q.requirements (q.objections settings) := by
  induction q with
  | plain c => exact c.reports_objections settings
  | withNamed name inner c ih =>
    exact ((report_nameObjections settings name).append ih).append (c.reports_objections settings)

variable {settings}

/-- There is no objection to clauses exactly if all that is asked of them is met. -/
theorem Clauses.objections_eq_nil_iff {c : Clauses} :
    c.objections settings = [] ↔ ∀ r ∈ c.requirements, r.IsMet settings :=
  (c.reports_objections settings).eq_nil_iff

/-- **There is no objection to a query** exactly if all that is asked of it is met. -/
theorem Query.objections_eq_nil_iff {q : Query} :
    q.objections settings = [] ↔ ∀ r ∈ q.requirements, r.IsMet settings :=
  (q.reports_objections settings).eq_nil_iff

theorem Query.check_eq_ok_iff {q : Query} :
    q.check settings = .ok () ↔ q.objections settings = [] := by
  unfold check
  split
  case h_1 h => exact ⟨fun _ => h, fun _ => rfl⟩
  case h_2 h =>
    rw [h]
    exact ⟨nofun, nofun⟩

end Objections

end ChartData
