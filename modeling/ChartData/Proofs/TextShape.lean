import ChartData.Proofs.Trees
import Mathlib.Data.List.Forall2

/-!
# What the text of a statement shows of a query

Tables, named queries and literals are bound, so the text of a statement should show nothing of
them: not the name of a table, not what a column is compared with, not how many rows are asked for.
What does show is a shape. A membership shows how many members it has, a condition shows its tree,
and a limit and an offset show that they are there.

`Query.SameShape` says of two queries, each with its settings, that they agree on all that shows and
may differ in all that is bound. It is a relation between two runs, level by level down the chain
and node by node down each condition, and it asks nothing of what is bound. Two such queries have
the same text, character for character (`Query.text_eq_of_sameShape`).
-/

namespace ChartData

/-! ## The same shape -/

/-- **Predicates of the same shape** compare the same column in the same way. What they compare it
with is of no account, except that memberships have the same number of members. -/
structure Predicate.SameShape (p q : Predicate) : Prop where
  /-- The columns are the same. -/
  column : p.column = q.column
  /-- The comparisons are the same. -/
  comparison : p.comparison = q.comparison
  /-- Memberships have as many members as each other. -/
  members : p.comparison.isMembership = true →
    p.literal.members.length = q.literal.members.length

/-- **Conditions of the same shape** are trees of the same kinds of groups with predicates of the
same shape at their nodes. -/
inductive Condition.SameShape : Condition → Condition → Prop where
  | leaf {p q : Predicate} (predicate : p.SameShape q) : SameShape (.leaf p) (.leaf q)
  | all {p q : Predicate} {cs ds : List Condition} (predicate : p.SameShape q)
    (group : List.Forall₂ SameShape cs ds) : SameShape (.all p cs) (.all q ds)
  | any {p q : Predicate} {cs ds : List Condition} (predicate : p.SameShape q)
    (group : List.Forall₂ SameShape cs ds) : SameShape (.any p cs) (.any q ds)

/-- **Joins of the same shape** are of the same kind and on the same condition, to any tables. -/
structure Join.SameShape (j k : Join) : Prop where
  /-- The kinds are the same. -/
  kind : j.kind = k.kind
  /-- The conditions are the same. -/
  on : j.on = k.on

/-- **Clauses of the same shape**, each with its settings: they read from any tables, and a limit
holds for both or for neither, be it their own or a default one. -/
structure Clauses.SameShape (settings settings' : QuerySettings) (c d : Clauses) : Prop where
  /-- What is selected is the same. -/
  columns : c.columns = d.columns
  /-- The expressions are the same. -/
  expressions : c.expressions = d.expressions
  /-- Joins are of the same shape, one by one. -/
  joins : List.Forall₂ Join.SameShape c.joins d.joins
  /-- Conditions are of the same shape, one by one. -/
  conditions : List.Forall₂ Condition.SameShape c.conditions d.conditions
  /-- Rows are grouped in the same way. -/
  grouping : c.grouping? = d.grouping?
  /-- Rows are ordered in the same way. -/
  ordering : c.ordering? = d.ordering?
  /-- A limit holds for both or for neither. -/
  limit : (c.effectiveLimit? settings).isSome = (d.effectiveLimit? settings').isSome
  /-- Both have an offset or neither. -/
  offset : c.offset?.isSome = d.offset?.isSome

/-- **Queries of the same shape**: named queries under any names, and clauses of the same shape at
every level. -/
inductive Query.SameShape (settings settings' : QuerySettings) : Query → Query → Prop where
  | plain {c d : Clauses} (clauses : c.SameShape settings settings' d) :
    SameShape settings settings' (.plain c) (.plain d)
  | withNamed {m n : String} {p q : Query} {c d : Clauses}
    (inner : SameShape settings settings' p q) (clauses : c.SameShape settings settings' d) :
    SameShape settings settings' (.withNamed m p c) (.withNamed n q d)

/-! ## What is written -/

namespace Statement

/-- The pieces of a statement as they are written. -/
def written (s : Statement) : List String := s.map Piece.written

theorem text_eq_of_written {s t : Statement} (h : s.written = t.written) : s.text = t.text :=
  congrArg String.join h

theorem written_append (s t : Statement) : written (s ++ t) = s.written ++ t.written :=
  List.map_append

/-- Statements made from two lists are written alike if they are so item by item. -/
theorem written_flatMap {α : Type} {R : α → α → Prop} {xs ys : List α} {f : α → Statement}
    (h : List.Forall₂ R xs ys) (hf : ∀ x ∈ xs, ∀ y, R x y → (f x).written = (f y).written) :
    written (xs.flatMap f) = written (ys.flatMap f) := by
  induction h with
  | nil => rfl
  | cons hxy _ ih =>
    rw [List.flatMap_cons, List.flatMap_cons, written_append, written_append,
      hf _ List.mem_cons_self _ hxy, ih fun x hx => hf x (List.mem_cons_of_mem _ hx)]

/-- Of literals with text between them, no more is written than how many they are. -/
theorem written_separated (separator : String) {ls ms : List Literal}
    (h : ls.length = ms.length) :
    written (separated separator (ls.map fun l => [.literal l])) =
      written (separated separator (ms.map fun l => [.literal l])) := by
  induction ls generalizing ms with
  | nil =>
    rw [List.eq_nil_of_length_eq_zero h.symm]
  | cons l ls ih =>
    obtain ⟨m, ms, rfl⟩ := List.exists_cons_of_length_eq_add_one h.symm
    have hrest := ih (Nat.succ.inj h)
    cases ls with
    | nil =>
      cases ms with
      | nil => rfl
      | cons => cases h
    | cons =>
      cases ms with
      | nil => cases h
      | cons => exact congrArg ("?" :: separator :: ·) hrest

end Statement

/-! ## The same text -/

/-- Predicates of the same shape are written alike: a comparison looks at no literal, and a
membership only at the number of its members. -/
theorem Predicate.SameShape.written_pieces {p q : Predicate} (h : p.SameShape q) :
    p.pieces.written = q.pieces.written := by
  obtain ⟨hcolumn, hcomparison, hmembers⟩ := h
  unfold Predicate.pieces
  rw [← hcolumn, ← hcomparison]
  split
  · rfl
  split
  case isTrue hm =>
    have hlength := hmembers hm
    cases hp : p.literal.members with
    | nil =>
      rw [hp] at hlength
      rw [List.eq_nil_of_length_eq_zero hlength.symm]
    | cons l ls =>
      rw [hp] at hlength
      obtain ⟨m, ms, hq⟩ := List.exists_cons_of_length_eq_add_one hlength.symm
      rw [hq] at hlength ⊢
      dsimp only
      rw [Statement.written_append, Statement.written_append, Statement.written_append,
        Statement.written_append, Statement.written_separated ", " hlength]
  case isFalse => rfl

/-- Of conditions of the same shape, the predicates are so, and the groups, and the connectives are
the same. -/
theorem Condition.SameShape.parts {c d : Condition} (h : c.SameShape d) :
    c.predicate.SameShape d.predicate ∧ List.Forall₂ SameShape c.group d.group ∧
      c.connective = d.connective := by
  cases h with
  | leaf hp => exact ⟨hp, .nil, rfl⟩
  | all hp hg | any hp hg => exact ⟨hp, hg, rfl⟩

/-- **Conditions of the same shape are written alike.** The induction is on one of them; the other
follows it node by node. -/
theorem Condition.SameShape.written_pieces {c d : Condition} (h : c.SameShape d) :
    c.pieces.written = d.pieces.written := by
  induction c using onGroups generalizing d with
  | h c ih =>
    obtain ⟨hpredicate, hgroup, hconnective⟩ := h.parts
    have hempty : c.group = [] ↔ d.group = [] := by
      rw [← List.length_eq_zero_iff, hgroup.length_eq, List.length_eq_zero_iff]
    rw [pieces_eq, pieces_eq d]
    split
    case isTrue hnone =>
      rw [if_pos (hempty.mp hnone), hpredicate.written_pieces]
    case isFalse hsome =>
      have hrest := Statement.written_flatMap (f := fun e => c.connective.pieces ++ e.pieces) hgroup
        fun e he e' hee' => by
          rw [Statement.written_append, Statement.written_append, ih e he hee']
      rw [if_neg (mt hempty.mpr hsome), ← hconnective, Statement.written_append,
        Statement.written_append, Statement.written_append, Statement.written_append,
        Statement.written_append, Statement.written_append, hpredicate.written_pieces, hrest]

namespace Clauses

variable {settings settings' : QuerySettings} {c d : Clauses}

theorem written_wherePieces (h : List.Forall₂ Condition.SameShape c.conditions d.conditions) :
    c.wherePieces.written = d.wherePieces.written := by
  unfold wherePieces
  revert h
  generalize c.conditions = cs
  generalize d.conditions = ds
  intro h
  cases h with
  | nil => rfl
  | @cons first first' rest rest' hfirst hrest =>
    have hgroup := Statement.written_flatMap (f := fun e => [.text " AND "] ++ e.pieces) hrest
      fun e _ e' he => by
        rw [Statement.written_append, Statement.written_append, he.written_pieces]
    rw [Condition.conjunctionPieces_cons, Condition.conjunctionPieces_cons]
    show " WHERE " :: Statement.written (_ ++ _) = " WHERE " :: Statement.written (_ ++ _)
    rw [Statement.written_append, Statement.written_append, hfirst.written_pieces, hgroup]

theorem written_countPieces (keyword : String) {n? m? : Option UInt64}
    (h : n?.isSome = m?.isSome) :
    (countPieces keyword n?).written = (countPieces keyword m?).written := by
  cases n? <;> cases m? <;> first | rfl | cases h

/-- **Clauses of the same shape are written alike.** -/
theorem SameShape.written_pieces (h : c.SameShape settings settings' d) :
    (c.pieces settings).written = (d.pieces settings').written := by
  have hselect : c.selectText = d.selectText := by
    unfold selectText selectTexts
    rw [h.columns, h.expressions]
  have hgroup : c.groupText = d.groupText := by
    unfold groupText
    rw [h.grouping]
  have horder : c.orderText = d.orderText := by
    unfold orderText
    rw [h.ordering]
  have hjoins := Statement.written_flatMap (f := Join.pieces) h.joins fun j _ k hjk => by
    unfold Join.pieces
    rw [hjk.kind, hjk.on]
    rfl
  unfold pieces
  simp only [Statement.written_append]
  rw [hselect, hgroup, horder, hjoins, written_wherePieces h.conditions,
    written_countPieces " LIMIT " h.limit, written_countPieces " OFFSET " h.offset]
  rfl

end Clauses

namespace Query

theorem SameShape.written_statement {settings settings' : QuerySettings} {p q : Query}
    (h : p.SameShape settings settings' q) :
    (p.statement settings).written = (q.statement settings').written := by
  induction h with
  | plain clauses => exact clauses.written_pieces
  | withNamed inner clauses ih =>
    unfold statement
    rw [Statement.written_append, Statement.written_append, Statement.written_append,
      Statement.written_append, Statement.written_append, Statement.written_append, ih,
      clauses.written_pieces]
    rfl

/-- **The text of a statement shows the shape of its query and nothing else**: two queries of the
same shape have the same text, whatever tables they read from, whatever they compare with and
however many rows they ask for. -/
theorem text_eq_of_sameShape {settings settings' : QuerySettings} {p q : Query}
    (h : p.SameShape settings settings' q) :
    (p.statement settings).text = (q.statement settings').text :=
  Statement.text_eq_of_written h.written_statement

/-- Two queries that share neither a table nor a name nor a literal nor a limit. -/
theorem text_eq_of_foreign_literals :
    ∃ p q : Query,
      p.SameShape default ⟨default, some 7, 9⟩ q ∧
      (p.statement default).text = (q.statement ⟨default, some 7, 9⟩).text ∧
      (q.statement ⟨default, some 7, 9⟩).text =
        "WITH ? AS (SELECT * FROM ? WHERE (a IN (?) OR b = ? OR 1 = 1) LIMIT ?) " ++
          "SELECT * FROM ? INNER JOIN ? ON x = y WHERE c IS NULL LIMIT ? OFFSET ?" := by
  let inner (table : Table) (a b c : Literal) : Clauses :=
    { Clauses.ofTable table with
      conditions := [.any ⟨"a", .isIn, a⟩ [.leaf ⟨"b", .equal, b⟩, .all ⟨"c", .notIn, c⟩ []]] }
  let outer (table joined : Table) (c : Literal) (limit? : Option UInt64) (offset : UInt64) :
      Clauses :=
    { Clauses.ofTable table with
      joins := [⟨joined, .inner, "x = y"⟩]
      conditions := [.leaf ⟨"c", .isNull, c⟩]
      limit? := limit?
      offset? := some offset }
  let p := withNamed "recent"
    (.plain (inner (.known .events) (.string "?") (.boolean true) (.list [])))
    (outer (.custom "recent") (.known .topics) .null (some 10) 0)
  let q := withNamed "; --"
    (.plain (inner (.custom "?") (.list [.null]) (.list [.null, .null]) (.list [])))
    (outer (.custom "") (.custom "x") (.string "c") none 5)
  have h : p.SameShape default ⟨default, some 7, 9⟩ q := by
    refine .withNamed
      (.plain ⟨rfl, rfl, .nil, .cons (.any ⟨rfl, rfl, ?_⟩ ?_) .nil, rfl, rfl, rfl, rfl⟩)
      ⟨rfl, rfl, .cons ⟨rfl, rfl⟩ .nil, .cons (.leaf ⟨rfl, rfl, nofun⟩) .nil, rfl, rfl, rfl, rfl⟩
    · exact fun _ => rfl
    · exact .cons (.leaf ⟨rfl, rfl, nofun⟩) (.cons (.all ⟨rfl, rfl, fun _ => rfl⟩ .nil) .nil)
  exact ⟨p, q, h, text_eq_of_sameShape h, by decide +kernel⟩

end Query

end ChartData
