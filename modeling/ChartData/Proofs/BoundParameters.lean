import ChartData.Proofs.Trees
import Mathlib.Data.List.Basic

/-!
# What the question marks of a statement stand for

`Query.boundParameters` lists what a query binds, in the order in which the query itself is laid
out: the named query first, then the tables, then the literals of the conditions, each condition
before those of its group, then the limit and the offset. The parameters of the statement are that
list.

They are as many as the question marks of the text, provided that nothing written as it stands has a
question mark of its own. `Query.inlineTexts` lists what is written as it stands.
-/

namespace ChartData

/-! ## What a query binds -/

namespace Statement

theorem parameters_flatMap {α : Type} (xs : List α) (f : α → Statement) :
    parameters (xs.flatMap f) = xs.flatMap fun x => (f x).parameters := by
  induction xs with
  | nil => rfl
  | cons x rest ih => rw [List.flatMap_cons, parameters_append, ih, List.flatMap_cons]

/-- What separates statements binds nothing. -/
theorem parameters_separated (separator : String) (statements : List Statement) :
    (separated separator statements).parameters = statements.flatMap parameters := by
  induction statements with
  | nil => rfl
  | cons s rest ih =>
    cases rest with
    | nil => exact (List.flatMap_singleton _ _).symm
    | cons t rest =>
      rw [separated, parameters_append, List.flatMap_cons]
      · exact congrArg _ ih
      · exact nofun

end Statement

/-- A predicate binds the literals it compares with. -/
theorem Predicate.parameters_pieces (p : Predicate) :
    p.pieces.parameters = p.bound.map .value := by
  unfold Predicate.pieces Predicate.bound
  split
  · rfl
  split
  · split
    case h_1 hnone =>
      rw [hnone]
      rfl
    case h_2 =>
      rw [Statement.parameters_append, Statement.parameters_append,
        Statement.parameters_separated, List.flatMap_map]
      show [] ++ p.literal.members.flatMap (fun l => [Parameter.value l]) ++ [] = _
      rw [List.nil_append, List.append_nil, List.map_eq_flatMap]
  · rfl

namespace Condition

/-- **The literals of a condition**, those of each node before those of the nodes below it. -/
def literals (c : Condition) : List Literal := c.nodes.flatMap fun n => n.predicate.bound

theorem literals_eq (c : Condition) :
    c.literals = c.predicate.bound ++ c.group.flatMap literals := by
  unfold literals
  rw [nodes_eq, List.flatMap_cons, List.flatMap_assoc]

/-- Conditions behind a connective bind what they bind without it. -/
theorem parameters_group {connective : Statement} (hconnective : connective.parameters = [])
    {group : List Condition} (h : ∀ c ∈ group, c.pieces.parameters = c.literals.map .value) :
    (Statement.parameters (group.flatMap fun c => connective ++ c.pieces)) =
      (group.flatMap literals).map .value := by
  rw [Statement.parameters_flatMap, List.map_flatMap]
  refine List.flatMap_congr fun c hc => ?_
  rw [Statement.parameters_append, h c hc, hconnective, List.nil_append]

/-- **A condition binds its literals**, in the order of its nodes. -/
theorem parameters_pieces (c : Condition) : c.pieces.parameters = c.literals.map .value := by
  induction c using onGroups with
  | h c ih =>
    -- Which connective it is does not matter, for neither binds anything.
    have hconnective : c.connective.pieces.parameters = [] := by cases c <;> rfl
    rw [pieces_eq, literals_eq, List.map_append, ← parameters_group hconnective ih,
      ← Predicate.parameters_pieces]
    split
    case isTrue hnone =>
      rw [hnone]
      exact (List.append_nil _).symm
    case isFalse =>
      rw [Statement.parameters_append, Statement.parameters_append, Statement.parameters_append]
      exact List.append_nil _

end Condition

namespace Clauses

/-- **What clauses bind.** -/
def boundParameters (settings : QuerySettings) (c : Clauses) : List Parameter :=
  .identifier c.table.name :: c.joins.map (fun j => .identifier j.table.name) ++
    (c.conditions.flatMap Condition.literals).map .value ++
    (c.limit?.or settings.defaultLimit?).toList.map (fun n => .value (.ofUInt64 n)) ++
    c.offset?.toList.map (fun n => .value (.ofUInt64 n))

theorem parameters_wherePieces (c : Clauses) :
    c.wherePieces.parameters = (c.conditions.flatMap Condition.literals).map .value := by
  unfold wherePieces
  cases c.conditions with
  | nil => rfl
  | cons first rest =>
    rw [Condition.conjunctionPieces_cons]
    show Statement.parameters (first.pieces ++ _) = _
    rw [Statement.parameters_append, first.parameters_pieces,
      Condition.parameters_group rfl fun c _ => c.parameters_pieces, List.flatMap_cons,
      List.map_append]

theorem parameters_joins (joins : List Join) :
    Statement.parameters (joins.flatMap Join.pieces) =
      joins.map fun j => .identifier j.table.name := by
  rw [Statement.parameters_flatMap, List.map_eq_flatMap]
  rfl

theorem parameters_countPieces (keyword : String) (n? : Option UInt64) :
    (countPieces keyword n?).parameters = n?.toList.map fun n => .value (.ofUInt64 n) := by
  cases n? <;> rfl

theorem parameters_pieces (settings : QuerySettings) (c : Clauses) :
    (c.pieces settings).parameters = c.boundParameters settings := by
  unfold pieces
  rw [Statement.parameters_append, Statement.parameters_append, Statement.parameters_append,
    Statement.parameters_append, Statement.parameters_append, parameters_countPieces,
    parameters_countPieces, parameters_wherePieces, parameters_joins]
  show _ ++ [] ++ _ ++ _ = _
  rw [List.append_nil]
  rfl

end Clauses

/-- **What a query binds**: the name of the query in front and all that this query binds, and then
what its own clauses bind. -/
def Query.boundParameters (settings : QuerySettings) : Query → List Parameter
  | plain c => c.boundParameters settings
  | withNamed name inner c =>
    .identifier name :: (inner.boundParameters settings ++ c.boundParameters settings)

theorem Query.parameters_statement (settings : QuerySettings) (q : Query) :
    (q.statement settings).parameters = q.boundParameters settings := by
  induction q with
  | plain c => exact c.parameters_pieces settings
  | withNamed name inner c ih =>
    rw [statement, Statement.parameters_append, Statement.parameters_append,
      Statement.parameters_append, ih, c.parameters_pieces]
    show [_] ++ _ ++ [] ++ _ = _
    rw [List.append_nil]
    rfl

/-! ## Texts without question marks -/

/-- **A text without a question mark** of its own. -/
def Unmarked (t : String) : Prop := '?' ∉ t.toList

instance (t : String) : Decidable (Unmarked t) := inferInstanceAs (Decidable (¬ _))

theorem Unmarked.append {s t : String} (hs : Unmarked s) (ht : Unmarked t) :
    Unmarked (s ++ t) := by
  unfold Unmarked
  rw [String.toList_append, List.mem_append]
  exact not_or.mpr ⟨hs, ht⟩

theorem Unmarked.intercalate {separator : String} (hs : Unmarked separator)
    {texts : List String} (h : ∀ t ∈ texts, Unmarked t) :
    Unmarked (separator.intercalate texts) := by
  induction texts with
  | nil =>
    rw [String.intercalate_nil]
    exact List.not_mem_nil
  | cons t rest ih =>
    have hrest := ih fun u hu => h u (List.mem_cons_of_mem t hu)
    cases rest with
    | nil =>
      rw [String.intercalate_singleton]
      exact h t List.mem_cons_self
    | cons u rest =>
      rw [String.intercalate_cons_cons]
      exact ((h t List.mem_cons_self).append hs).append hrest

namespace Statement

/-- **A statement whose texts all have a property.** -/
def EachText (P : String → Prop) (s : Statement) : Prop := ∀ t, Piece.text t ∈ s → P t

namespace EachText

variable {P : String → Prop} {s t : Statement}

theorem nil : EachText P [] := nofun

theorem append (hs : s.EachText P) (ht : t.EachText P) : EachText P (s ++ t) :=
  fun u hu => (List.mem_append.mp hu).elim (hs u) (ht u)

theorem text {t : String} (ht : P t) : EachText P [.text t] := by
  intro u hu
  cases List.mem_singleton.mp hu
  exact ht

theorem bind (parameter : Parameter) : EachText P [.bind parameter] := by
  intro u hu
  cases List.mem_singleton.mp hu

theorem flatMap {α : Type} {xs : List α} {f : α → Statement} (h : ∀ x ∈ xs, (f x).EachText P) :
    EachText P (xs.flatMap f) := by
  intro u hu
  obtain ⟨x, hx, hu⟩ := List.mem_flatMap.mp hu
  exact h x hx u hu

theorem separated {separator : String} (hs : P separator) {statements : List Statement}
    (h : ∀ s ∈ statements, s.EachText P) :
    EachText P (ChartData.separated separator statements) := by
  induction statements with
  | nil => exact nil
  | cons s rest ih =>
    have hrest := ih fun t ht => h t (List.mem_cons_of_mem s ht)
    cases rest with
    | nil => exact h s List.mem_cons_self
    | cons t rest => exact (h s List.mem_cons_self).append ((text hs).append hrest)

end EachText

/-- **A statement whose only question marks are its parameters.** -/
def Unmarked (s : Statement) : Prop := ∀ t, Piece.text t ∈ s → ChartData.Unmarked t

namespace Unmarked

variable {s t : Statement}

theorem nil : Unmarked [] := EachText.nil

theorem append (hs : s.Unmarked) (ht : t.Unmarked) : Unmarked (s ++ t) := EachText.append hs ht

theorem text {t : String} (ht : ChartData.Unmarked t) : Unmarked [.text t] := EachText.text ht

theorem bind (parameter : Parameter) : Unmarked [.bind parameter] := EachText.bind parameter

theorem flatMap {α : Type} {xs : List α} {f : α → Statement} (h : ∀ x ∈ xs, (f x).Unmarked) :
    Unmarked (xs.flatMap f) :=
  EachText.flatMap h

theorem separated {separator : String} (hs : ChartData.Unmarked separator)
    {statements : List Statement} (h : ∀ s ∈ statements, s.Unmarked) :
    Unmarked (ChartData.separated separator statements) :=
  EachText.separated hs h

end Unmarked

theorem text_append (s t : Statement) : text (s ++ t) = s.text ++ t.text := by
  rw [← String.toList_inj, toList_text_append, String.toList_append]

theorem toList_text_singleton (x : Piece) : (text [x]).toList = x.written.toList := by
  simp [text]

theorem text_singleton (t : String) : text [.text t] = t := by
  rw [← String.toList_inj, toList_text_singleton]
  rfl

/-- **The question marks of a statement are its parameters**, one each. -/
theorem count_questionMark {s : Statement} (h : s.Unmarked) :
    s.text.toList.count '?' = s.parameters.length := by
  induction s with
  | nil => rfl
  | cons x rest ih =>
    have ih := ih fun t ht => h t (List.mem_cons_of_mem x ht)
    have hx : x.written.toList.count '?' = (parameters [x]).length := by
      cases x with
      | text t => exact List.count_eq_zero.mpr (h t List.mem_cons_self)
      | bind parameter =>
        show "?".toList.count '?' = 1
        decide
    rw [← List.singleton_append, toList_text_append, List.count_append, parameters_append,
      List.length_append, ih, toList_text_singleton, hx]

end Statement

/-! ## What is written as it stands -/

/-- **What a column brings into a statement as it stands.** -/
def Column.inlineTexts (c : Column) : List String := c.name :: c.alias?.toList

/-- What an expression brings in as it stands. -/
def Expression.inlineTexts (e : Expression) : List String := e.text :: e.alias?.toList

/-- What a condition brings in as it stands: the columns of all its nodes. -/
def Condition.inlineTexts (c : Condition) : List String := c.nodes.map fun n => n.predicate.column

/-- What a grouping brings in as it stands. -/
def Grouping.inlineTexts (g : Grouping) : List String := g.columns ++ g.having?.toList

/-- **What clauses bring in as it stands.** -/
def Clauses.inlineTexts (c : Clauses) : List String :=
  c.columns.flatMap Column.inlineTexts ++ c.expressions.flatMap Expression.inlineTexts ++
    c.joins.map Join.on ++ c.conditions.flatMap Condition.inlineTexts ++
    c.grouping?.toList.flatMap Grouping.inlineTexts ++
    c.ordering?.toList.flatMap RowOrder.columns

/-- **What a query brings into a statement as it stands**, the query in front of it included. -/
def Query.inlineTexts : Query → List String
  | plain c => c.inlineTexts
  | withNamed _ inner c => inner.inlineTexts ++ c.inlineTexts

theorem unmarked_aliasText {alias? : Option String} (h : ∀ t ∈ alias?.toList, Unmarked t) :
    Unmarked (aliasText alias?) := by
  cases alias? with
  | none => decide
  | some name =>
    have hprefix : Unmarked " AS " := by decide
    exact hprefix.append (h name List.mem_cons_self)

theorem Column.unmarked_selectText {c : Column} (h : ∀ t ∈ c.inlineTexts, Unmarked t) :
    Unmarked c.selectText := by
  have hname : Unmarked c.name := h _ List.mem_cons_self
  have halias : Unmarked (aliasText c.alias?) :=
    unmarked_aliasText fun t ht => h t (List.mem_cons_of_mem _ ht)
  unfold selectText
  refine Unmarked.append ?_ halias
  split
  case h_1 a _ =>
    have haggregation : Unmarked a.name := by cases a <;> decide
    refine ((haggregation.append ?_).append hname).append (by decide)
    split <;> decide
  case h_2 => exact hname

theorem Expression.unmarked_selectText {e : Expression} (h : ∀ t ∈ e.inlineTexts, Unmarked t) :
    Unmarked e.selectText :=
  (h _ List.mem_cons_self).append
    (unmarked_aliasText fun t ht => h t (List.mem_cons_of_mem _ ht))

theorem Join.unmarked_pieces {j : Join} (h : Unmarked j.on) : j.pieces.Unmarked := by
  have hkind : Unmarked (" " ++ j.kind.sql ++ " ") := by cases j.kind <;> decide
  have hon : Unmarked (" ON " ++ j.on) := Unmarked.append (by decide) h
  exact (Statement.Unmarked.text hkind).append ((Statement.Unmarked.bind _).append (.text hon))

theorem Predicate.unmarked_pieces {p : Predicate} (h : Unmarked p.column) :
    p.pieces.Unmarked := by
  have hcomparison : Unmarked (p.column ++ " " ++ p.comparison.sql) := by
    refine (h.append (by decide)).append ?_
    cases p.comparison <;> decide
  unfold Predicate.pieces
  split
  · exact .text hcomparison
  split
  · split
    · refine .text ?_
      split <;> decide
    · refine ((Statement.Unmarked.text (hcomparison.append (by decide))).append ?_).append
        (.text (by decide))
      refine .separated (by decide) fun s hs => ?_
      obtain ⟨l, -, rfl⟩ := List.mem_map.mp hs
      exact .bind _
  · exact (Statement.Unmarked.text (hcomparison.append (by decide))).append (.bind _)

namespace Condition

theorem inlineTexts_eq (c : Condition) :
    c.inlineTexts = c.predicate.column :: c.group.flatMap inlineTexts := by
  unfold inlineTexts
  rw [nodes_eq, List.map_cons, List.map_flatMap]

/-- A condition whose columns have no question marks has none but its parameters. -/
theorem unmarked_pieces (c : Condition) (h : ∀ t ∈ c.inlineTexts, Unmarked t) :
    c.pieces.Unmarked := by
  induction c using onGroups with
  | h c ih =>
    rw [inlineTexts_eq] at h
    have hpredicate : c.predicate.pieces.Unmarked :=
      Predicate.unmarked_pieces (h _ List.mem_cons_self)
    have hconnective : c.connective.pieces.Unmarked := by
      cases c <;> exact .text (by decide)
    rw [pieces_eq]
    split
    · exact hpredicate
    refine ((Statement.Unmarked.text (by decide)).append (hpredicate.append ?_)).append
      (.text (by decide))
    refine .flatMap fun d hd => hconnective.append (ih d hd fun t ht => h t ?_)
    exact List.mem_cons_of_mem _ (List.mem_flatMap_of_mem hd ht)

end Condition

namespace Clauses

variable {c : Clauses}

theorem unmarked_selectText (hcolumns : ∀ t ∈ c.columns.flatMap Column.inlineTexts, Unmarked t)
    (hexpressions : ∀ t ∈ c.expressions.flatMap Expression.inlineTexts, Unmarked t) :
    Unmarked c.selectText := by
  unfold selectText
  refine Unmarked.append (by decide) ?_
  split
  · decide
  refine Unmarked.intercalate (by decide) fun t ht => ?_
  rcases List.mem_append.mp ht with ht | ht
  · obtain ⟨column, hcolumn, rfl⟩ := List.mem_map.mp ht
    exact Column.unmarked_selectText fun t ht =>
      hcolumns t (List.mem_flatMap_of_mem hcolumn ht)
  · obtain ⟨expression, hexpression, rfl⟩ := List.mem_map.mp ht
    exact Expression.unmarked_selectText fun t ht =>
      hexpressions t (List.mem_flatMap_of_mem hexpression ht)

theorem unmarked_wherePieces
    (h : ∀ t ∈ c.conditions.flatMap Condition.inlineTexts, Unmarked t) :
    c.wherePieces.Unmarked := by
  have hpieces : ∀ d ∈ c.conditions, d.pieces.Unmarked := fun d hd =>
    d.unmarked_pieces fun t ht => h t (List.mem_flatMap_of_mem hd ht)
  unfold wherePieces
  split
  · exact .nil
  cases hc : c.conditions with
  | nil => exact .text (by decide)
  | cons first rest =>
    rw [hc] at hpieces
    rw [Condition.conjunctionPieces_cons]
    refine (Statement.Unmarked.text (by decide)).append
      ((hpieces first List.mem_cons_self).append (.flatMap fun d hd => ?_))
    exact (Statement.Unmarked.text (by decide)).append (hpieces d (List.mem_cons_of_mem first hd))

theorem unmarked_groupText
    (h : ∀ t ∈ c.grouping?.toList.flatMap Grouping.inlineTexts, Unmarked t) :
    Unmarked c.groupText := by
  unfold groupText
  cases hg : c.grouping? with
  | none => decide
  | some g =>
    have h : ∀ t ∈ g.columns ++ g.having?.toList, Unmarked t := fun t ht =>
      h t (List.mem_flatMap_of_mem (Option.mem_toList.mpr hg) ht)
    refine Unmarked.append ?_ ?_
    · split
      · decide
      · exact Unmarked.append (by decide) (.intercalate (by decide) fun t ht =>
          h t (List.mem_append_left _ ht))
    · cases hh : g.having? with
      | none => decide
      | some having =>
        exact Unmarked.append (by decide)
          (h having (List.mem_append_right _ (Option.mem_toList.mpr hh)))

theorem unmarked_orderText
    (h : ∀ t ∈ c.ordering?.toList.flatMap RowOrder.columns, Unmarked t) :
    Unmarked c.orderText := by
  unfold orderText
  cases ho : c.ordering? with
  | none => decide
  | some o =>
    have h : ∀ t ∈ o.columns, Unmarked t := fun t ht =>
      h t (List.mem_flatMap_of_mem (Option.mem_toList.mpr ho) ht)
    have hdirection : Unmarked o.direction.sql := by cases o.direction <;> decide
    dsimp only
    split
    · decide
    · exact ((Unmarked.append (by decide) (.intercalate (by decide) h)).append
        (by decide)).append hdirection

theorem unmarked_countPieces {keyword : String} (h : Unmarked keyword) (n? : Option UInt64) :
    (countPieces keyword n?).Unmarked := by
  cases n? with
  | none => exact .nil
  | some n => exact (Statement.Unmarked.text h).append (.bind _)

/-- Clauses whose texts have no question marks have none but their parameters. -/
theorem unmarked_pieces (settings : QuerySettings) (h : ∀ t ∈ c.inlineTexts, Unmarked t) :
    (c.pieces settings).Unmarked := by
  unfold inlineTexts at h
  simp only [List.mem_append, or_imp, forall_and] at h
  obtain ⟨⟨⟨⟨⟨hcolumns, hexpressions⟩, hjoins⟩, hconditions⟩, hgrouping⟩, hordering⟩ := h
  have hselect : Unmarked (c.selectText ++ " FROM ") :=
    (unmarked_selectText hcolumns hexpressions).append (by decide)
  have hjoin : Statement.Unmarked (c.joins.flatMap Join.pieces) :=
    .flatMap fun j hj => Join.unmarked_pieces (hjoins _ (List.mem_map_of_mem hj))
  have hrest : Unmarked (c.groupText ++ c.orderText) :=
    (unmarked_groupText hgrouping).append (unmarked_orderText hordering)
  exact ((((((Statement.Unmarked.text hselect).append (.bind _)).append hjoin).append
    (unmarked_wherePieces hconditions)).append (.text hrest)).append
    (unmarked_countPieces (by decide) _)).append (unmarked_countPieces (by decide) _)

end Clauses

namespace Query

/-- A query whose texts have no question marks has none but its parameters. -/
theorem unmarked_statement (settings : QuerySettings) (q : Query)
    (h : ∀ t ∈ q.inlineTexts, Unmarked t) : (q.statement settings).Unmarked := by
  induction q with
  | plain c => exact c.unmarked_pieces settings h
  | withNamed name inner c ih =>
    have hinner := ih fun t ht => h t (List.mem_append_left _ ht)
    have hclauses : (c.pieces settings).Unmarked :=
      c.unmarked_pieces settings fun t ht => h t (List.mem_append_right _ ht)
    have hfront : Statement.Unmarked [.text "WITH ", .name name, .text " AS ("] :=
      (Statement.Unmarked.text (by decide)).append
        ((Statement.Unmarked.bind _).append (.text (by decide)))
    exact ((hfront.append hinner).append (.text (by decide))).append hclauses

/-- **The parameters of a statement** are what its query binds, in the order in which the query is
laid out, and its text has exactly one question mark for each, provided that nothing written as it
stands has one. -/
theorem statement_binds (settings : QuerySettings) (q : Query) :
    (q.statement settings).parameters = q.boundParameters settings ∧
      ((∀ t ∈ q.inlineTexts, '?' ∉ t.toList) →
        (q.statement settings).text.toList.count '?' =
          (q.statement settings).parameters.length) :=
  ⟨q.parameters_statement settings,
    fun h => Statement.count_questionMark (q.unmarked_statement settings h)⟩

/-- A named query with a membership inside a group and the default limit, and behind it a join, a
limit and an offset. -/
theorem statement_binds_after_named :
    ∃ q : Query,
      (q.statement default).parameters =
        [.identifier "recent", .identifier "orders", .value (.string "new"),
          .value (.string "sent"), .value (.boolean true), .value (.ofUInt64 20),
          .identifier "recent", .identifier "people", .value (.ofUInt64 10),
          .value (.ofUInt64 5)] ∧
      (q.statement default).text.toList.count '?' = 10 := by
  let inner : Clauses :=
    { Clauses.ofTable (.custom "orders") with
      conditions :=
        [.all ⟨"state", .isIn, .list [.string "new", .string "sent"]⟩
          [.leaf ⟨"sum", .isNotNull, .null⟩, .any ⟨"paid", .equal, .boolean true⟩ []]] }
  let outer : Clauses :=
    { Clauses.ofTable (.custom "recent") with
      joins := [⟨.custom "people", .left, "recent.person = people.id"⟩]
      limit? := some 10
      offset? := some 5 }
  have h := (withNamed "recent" (.plain inner) outer).statement_binds default
  have hparameters := h.1.trans rfl
  refine ⟨_, hparameters, ?_⟩
  rw [h.2 (by decide), hparameters]
  rfl

end Query

end ChartData
