import ChartData.Query.BuildStep
import Mathlib.Data.List.Basic

/-!
# Queries built step by step

A builder is free to call its steps in any order, to call some of them again and to have some of
them refused. What query comes out in the end is said here without going through the steps
(`BuildStep.run_eq_after`): of the steps that were not refused, those that add to a clause have
their arguments in it, in the order in which they were called, and of those that set a clause the
last one prevails. So only the order of steps that are about the same part of the query matters
(`BuildStep.after_congr`).

Every step is about one part of the query (`BuildStep.part`) and has one argument, whose type
depends on that part (`BuildStep.argument`). The arguments for a part, in the order of the steps,
are all that `Query.after` looks at.
-/

namespace ChartData

/-! ## Parts of a query -/

/-- **The parts of a query** that steps are about, one for each kind of step. -/
inductive QueryPart where
  /-- The selected columns. -/
  | columns
  /-- The selected expressions. -/
  | expressions
  /-- The table. -/
  | table
  /-- The joins. -/
  | joins
  /-- The conditions. -/
  | conditions
  /-- How rows are grouped. -/
  | grouping
  /-- How rows are ordered. -/
  | ordering
  /-- The limit. -/
  | limit
  /-- The offset. -/
  | offset
  /-- The named query in front. -/
  | named
deriving DecidableEq

/-- What a step about a part brings along. -/
abbrev QueryPart.Argument : QueryPart → Type
  | columns => Column
  | expressions => Expression
  | table => Table
  | joins => Join
  | conditions => Condition
  | grouping => Grouping
  | ordering => RowOrder
  | limit | offset => UInt64
  | named => String × Query

namespace BuildStep

/-- The part that a step is about. -/
def part : BuildStep → QueryPart
  | select _ => .columns
  | compute _ _ => .expressions
  | fromTable _ => .table
  | join _ _ _ => .joins
  | filter _ => .conditions
  | groupBy _ _ => .grouping
  | orderBy _ _ => .ordering
  | limit _ => .limit
  | offset _ => .offset
  | naming _ _ => .named

/-- **What a step brings along** for its part. A limit or offset is the number itself; a negative
one, which is refused, does not count. -/
def argument : (s : BuildStep) → s.part.Argument
  | select s => (⟨s.name, s.alias?, s.aggregation?, if s.distinct then some true else none⟩ : Column)
  | compute text alias? => (⟨text, alias?⟩ : Expression)
  | fromTable table => table
  | join table on kind => (⟨table, kind, on⟩ : Join)
  | filter condition => condition
  | groupBy columns having? => (⟨columns, having?⟩ : Grouping)
  | orderBy columns direction => (⟨columns, direction⟩ : RowOrder)
  | limit n => UInt64.ofNat n.toInt.toNat
  | offset n => UInt64.ofNat n.toInt.toNat
  | naming name inner => (name, inner)

/-- What a step brings along for a given part, if it is about that part. -/
def argumentFor? (p : QueryPart) (s : BuildStep) : Option p.Argument :=
  if h : s.part = p then some (h ▸ s.argument) else none

/-- **What steps bring along for a part**, in the order of the steps. -/
def arguments (steps : List BuildStep) (p : QueryPart) : List p.Argument :=
  steps.filterMap (argumentFor? p)

@[simp] theorem arguments_append (s t : List BuildStep) (p : QueryPart) :
    arguments (s ++ t) p = arguments s p ++ arguments t p :=
  List.filterMap_append

@[simp] theorem arguments_singleton (s : BuildStep) (p : QueryPart) :
    arguments [s] p = (s.argumentFor? p).toList := by
  cases h : s.argumentFor? p <;> simp [arguments, h]

/-- Steps about other parts bring nothing along. -/
theorem arguments_filter_part (steps : List BuildStep) (p : QueryPart) :
    arguments (steps.filter (·.part = p)) p = arguments steps p := by
  rw [arguments, List.filterMap_filter]
  congr 1
  funext s
  by_cases hs : s.part = p <;> simp [argumentFor?, hs]

end BuildStep

/-! ## A query after steps -/

open BuildStep (arguments)

namespace Clauses

/-- **Clauses after steps**: what the steps add comes behind what is there, in the order of the
steps, and where steps set something the last one prevails. -/
def after (steps : List BuildStep) (c : Clauses) : Clauses where
  columns := c.columns ++ arguments steps .columns
  expressions := c.expressions ++ arguments steps .expressions
  table := (arguments steps .table).getLast?.getD c.table
  joins := c.joins ++ arguments steps .joins
  conditions := c.conditions ++ arguments steps .conditions
  grouping? := (arguments steps .grouping).getLast?.or c.grouping?
  ordering? := (arguments steps .ordering).getLast?.or c.ordering?
  limit? := (arguments steps .limit).getLast?.or c.limit?
  offset? := (arguments steps .offset).getLast?.or c.offset?

@[simp] theorem after_nil (c : Clauses) : c.after [] = c := by
  simp [after, arguments]

/-- **Some steps and then others** are all the steps in a row. -/
theorem after_append (s t : List BuildStep) (c : Clauses) :
    c.after (s ++ t) = (c.after s).after t := by
  simp [after, List.getLast?_append, Option.or_assoc]

end Clauses

namespace Query

/-- The named query in front, if there is one. -/
def named? : Query → Option (String × Query)
  | plain _ => none
  | withNamed name inner _ => some (name, inner)

/-- The query with given clauses behind a named query, or alone if there is none. -/
def ofParts (named? : Option (String × Query)) (c : Clauses) : Query :=
  match named? with
  | some (name, inner) => withNamed name inner c
  | none => plain c

/-- **A query after steps**: its clauses after them, behind the last query that they put in
front. -/
def after (steps : List BuildStep) (q : Query) : Query :=
  ofParts ((arguments steps .named).getLast?.or q.named?) (q.clauses.after steps)

@[simp] theorem ofParts_named?_clauses (q : Query) : ofParts q.named? q.clauses = q := by
  cases q <;> rfl

@[simp] theorem named?_ofParts (named? : Option (String × Query)) (c : Clauses) :
    (ofParts named? c).named? = named? := by
  cases named? <;> rfl

@[simp] theorem clauses_ofParts (named? : Option (String × Query)) (c : Clauses) :
    (ofParts named? c).clauses = c := by
  cases named? <;> rfl

theorem withClauses_eq_ofParts (c : Clauses) (q : Query) :
    q.withClauses c = ofParts q.named? c := by
  cases q <;> rfl

@[simp] theorem after_nil (q : Query) : q.after [] = q := by
  simp [after, arguments]

/-- **Some steps and then others** are all the steps in a row. -/
theorem after_append (s t : List BuildStep) (q : Query) :
    q.after (s ++ t) = (q.after s).after t := by
  simp [after, Clauses.after_append, List.getLast?_append, Option.or_assoc]

end Query

namespace BuildStep

/-! ## What a step does -/

/-- A count that is not refused is the number itself. -/
theorem countOf_eq_ok {field : CountField} {n : Int64} {m : UInt64} (h : countOf field n = .ok m) :
    m = .ofNat n.toInt.toNat := by
  unfold countOf at h
  split at h
  case isTrue hn =>
    cases h
    have hlt := n.toInt_lt
    have hnat : n.toUInt64.toNat = n.toInt.toNat := Int64.toNat_toUInt64_of_le hn
    have hfits : n.toInt.toNat < UInt64.size := by
      show _ < 2 ^ 64
      omega
    rw [← UInt64.toNat_inj, hnat, UInt64.toNat_ofNat_of_lt' hfits]
  case isFalse => cases h

/-- A query made from a count, if the count is not refused, is made from the number itself. -/
theorem eq_of_map_countOf {f : UInt64 → Query} {field : CountField} {n : Int64} {q : Query}
    (h : (countOf field n).map f = .ok q) : q = f (.ofNat n.toInt.toNat) := by
  cases hm : countOf field n with
  | error e =>
    rw [hm] at h
    cases h
  | ok m =>
    rw [hm] at h
    cases h
    rw [countOf_eq_ok hm]

/-- **All that a step can do**, if it is not refused. -/
theorem eq_after_of_apply {s : BuildStep} {q q' : Query} (h : s.apply q = .ok q') :
    q' = q.after [s] := by
  cases s with
  | select s =>
    simp only [apply, Query.select] at h
    split at h
    case isTrue => cases h
    case isFalse =>
      cases h
      simp [Query.after, Clauses.after, argumentFor?, part, argument, Query.mapClauses,
        Query.withClauses_eq_ofParts]
  | limit n | offset n =>
    rw [eq_of_map_countOf h]
    simp [Query.after, Clauses.after, argumentFor?, part, argument, Query.mapClauses,
      Query.withClauses_eq_ofParts]
  | naming name inner =>
    cases h
    simp [Query.after, Clauses.after, argumentFor?, part, argument, Query.naming, Query.ofParts]
  | _ =>
    cases h
    simp [Query.after, Clauses.after, argumentFor?, part, argument, Query.compute, Query.fromTable,
      Query.join, Query.filter, Query.groupBy, Query.orderBy, Query.mapClauses,
      Query.withClauses_eq_ofParts]

/-! ## What a run does -/

/-- **The steps of a run that are not refused**, in their order. -/
def accepted : List BuildStep → Query → List BuildStep
  | [], _ => []
  | s :: rest, q =>
    match s.apply q with
    | .ok q' => s :: accepted rest q'
    | .error _ => accepted rest q

/-- **What comes out of a run** is the query after the steps that were not refused. -/
theorem run_eq_after (steps : List BuildStep) (q : Query) :
    run steps q = q.after (accepted steps q) := by
  induction steps generalizing q with
  | nil => simp [run, accepted]
  | cons s rest ih =>
    have hrun : run (s :: rest) q = run rest (s.applyOrKeep q) := rfl
    cases h : s.apply q with
    | error e => simp only [hrun, applyOrKeep, accepted, h, ih]
    | ok q' =>
      calc run (s :: rest) q = q'.after (accepted rest q') := by
            simp only [hrun, applyOrKeep, h, ih]
        _ = (q.after [s]).after (accepted rest q') := by rw [← eq_after_of_apply h]
        _ = q.after (accepted (s :: rest) q) := by
            simp only [← Query.after_append, accepted, h, List.singleton_append]

/-- **Steps about different parts do not get in each other's way.** -/
theorem after_congr {s t : List BuildStep}
    (h : ∀ p : QueryPart, s.filter (·.part = p) = t.filter (·.part = p)) (q : Query) :
    q.after s = q.after t := by
  have harg : ∀ p, arguments s p = arguments t p := by
    intro p
    rw [← arguments_filter_part s, h, arguments_filter_part t]
  simp only [Query.after, Clauses.after, harg]

/-- **The query that is built.**

From a table – the default one, or the one that the settings name – any steps in any order give the
arguments of those that were accepted: all of them, in their order, where steps add, and the last
one, or else what was there at first, where steps set. Steps of which the same are accepted for each
part of the query build the same query, however they are interleaved. -/
theorem run_ofTable (table : Table) (steps : List BuildStep) :
    let start := Query.ofTable table
    let done := accepted steps start
    (run steps start).clauses =
        { columns := arguments done .columns
          expressions := arguments done .expressions
          table := (arguments done .table).getLast?.getD table
          joins := arguments done .joins
          conditions := arguments done .conditions
          grouping? := (arguments done .grouping).getLast?
          ordering? := (arguments done .ordering).getLast?
          limit? := (arguments done .limit).getLast?
          offset? := (arguments done .offset).getLast? } ∧
      (run steps start).named? = (arguments done .named).getLast? ∧
      ∀ others : List BuildStep,
        (∀ p : QueryPart,
          (accepted others start).filter (·.part = p) = done.filter (·.part = p)) →
        run others start = run steps start := by
  intro start done
  have hrun : run steps start = start.after done := run_eq_after steps start
  have hclauses : start.clauses = .ofTable table := rfl
  have hnamed : start.named? = none := rfl
  refine ⟨?_, ?_, ?_⟩
  · simp [hrun, Query.after, hclauses, Clauses.after, Clauses.ofTable]
  · simp [hrun, Query.after, hnamed]
  · intro others h
    rw [run_eq_after others, hrun, after_congr h]

/-- A limit, a selection, an order and a condition in two orders, with a negative limit and a
distinct column that is not aggregated among them: both runs accept the same and build the same. -/
theorem run_ofTable_of_interleaved :
    let start := Query.ofTable default
    let steps : List BuildStep :=
      [limit 5, select ⟨"day", none, none, false⟩, limit (-1), orderBy ["day"] .ascending,
        select ⟨"n", some "total", some .sum, true⟩, limit 9]
    let others : List BuildStep :=
      [select ⟨"day", none, none, false⟩, select ⟨"day", none, none, true⟩,
        orderBy ["day"] .ascending, limit 5, limit 9,
        select ⟨"n", some "total", some .sum, true⟩]
    (∀ p : QueryPart,
      (accepted others start).filter (·.part = p) =
        (accepted steps start).filter (·.part = p)) ∧
    run others start = run steps start := by
  intro start steps others
  have hsame : ∀ p : QueryPart,
      (accepted others start).filter (·.part = p) =
        (accepted steps start).filter (·.part = p) := by
    intro p
    cases p <;> rfl
  exact ⟨hsame, (run_ofTable default steps).2.2 others hsame⟩

end BuildStep

end ChartData
