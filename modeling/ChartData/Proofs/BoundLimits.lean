import ChartData.Proofs.CheckedTexts
import Mathlib.Data.List.Forall2

/-!
# The limits that reach the store

How many rows the store may be asked for is settled in three places that do not know of each other.
Settings are looked at when they are made, and then their default limit must not exceed the greatest
one. A query is looked at before it is sent, and then the limits that it sets itself must not. Which
of the two limits holds is decided when the statement is written, at every level of the chain anew.

So the limits are read off the statement here (`Statement.limits`), one for each query in it, and
compared with the greatest one (`Query.limits_of_check`). A limit is what is bound behind the word,
and nothing else in a statement looks like the word or like the end of a query: what comes in as it
stands has a comparison or a keyword of its own in the same piece
(`Clauses.quiet_piecesBeforeLimit`).
-/

namespace ChartData

/-! ## Reading limits -/

namespace Statement

/-- **The limits of the queries that end from here on**, given the one that has been found of the
query at hand. A limit is what is bound behind the word; a named query ends where its parenthesis is
closed, and the last query with the statement. -/
def limitsFrom (limit? : Option Parameter) : Statement → List (Option Parameter)
  | [] => [limit?]
  | .text ") " :: rest => limit? :: limitsFrom none rest
  | .text " LIMIT " :: .bind p :: rest => limitsFrom (some p) rest
  | _ :: rest => limitsFrom limit? rest

/-- **The limits in a statement**, one for each query if it has one, the innermost query first. -/
def limits (s : Statement) : List (Option Parameter) := s.limitsFrom none

end Statement

/-! ## Texts that are passed over -/

/-- **A text that neither sets a limit nor ends a query.** -/
def IsQuiet (t : String) : Prop := t ≠ ") " ∧ t ≠ " LIMIT "

instance (t : String) : Decidable (IsQuiet t) := inferInstanceAs (Decidable (_ ∧ _))

/-- Whether a text is told from the two by its end. -/
theorem isQuiet_append_of_suffix {s : String} (t : String)
    (h : ¬s.toList <:+ ") ".toList ∧ ¬s.toList <:+ " LIMIT ".toList) : IsQuiet (t ++ s) := by
  have hsuffix : s.toList <:+ (t ++ s).toList := by
    rw [String.toList_append]
    exact List.suffix_append t.toList s.toList
  exact ⟨fun he => h.1 (he ▸ hsuffix), fun he => h.2 (he ▸ hsuffix)⟩

/-- Whether it is told by its beginning. -/
theorem isQuiet_append_of_prefix {s : String} (t : String)
    (h : ¬s.toList <+: ") ".toList ∧ ¬s.toList <+: " LIMIT ".toList) : IsQuiet (s ++ t) := by
  have hprefix : s.toList <+: (s ++ t).toList := by
    rw [String.toList_append]
    exact List.prefix_append s.toList t.toList
  exact ⟨fun he => h.1 (he ▸ hprefix), fun he => h.2 (he ▸ hprefix)⟩

namespace Statement

theorem limitsFrom_append_of_quiet {s : Statement} (h : s.EachText IsQuiet)
    (limit? : Option Parameter) (rest : Statement) :
    (s ++ rest).limitsFrom limit? = rest.limitsFrom limit? := by
  induction s with
  | nil => rfl
  | cons x s ih =>
    have ih := ih fun t ht => h t (List.mem_cons_of_mem x ht)
    cases x with
    | bind p => exact ih
    | text t =>
      have hquiet := h t List.mem_cons_self
      rw [List.cons_append, limitsFrom, ih]
      · simpa using hquiet.1
      · simp [hquiet.2]

end Statement

theorem Join.quiet_pieces (j : Join) : j.pieces.EachText IsQuiet := by
  have hkind : IsQuiet (" " ++ j.kind.sql ++ " ") := by cases j.kind <;> decide
  have hon : IsQuiet (" ON " ++ j.on) := isQuiet_append_of_prefix _ (by decide)
  exact (Statement.EachText.text hkind).append ((Statement.EachText.bind _).append (.text hon))

theorem Predicate.quiet_pieces (p : Predicate) : p.pieces.EachText IsQuiet := by
  unfold pieces
  split
  · refine .text (isQuiet_append_of_suffix _ ?_)
    cases p.comparison <;> decide
  split
  · split
    · refine .text ?_
      split <;> decide
    · refine ((Statement.EachText.text (isQuiet_append_of_suffix _ (by decide))).append ?_).append
        (.text (by decide))
      refine .separated (by decide) fun s hs => ?_
      obtain ⟨l, -, rfl⟩ := List.mem_map.mp hs
      exact .bind _
  · have hcomparison : IsQuiet (p.column ++ " " ++ p.comparison.sql ++ " ") := by
      rw [String.append_assoc]
      refine isQuiet_append_of_suffix _ ?_
      cases p.comparison <;> decide
    exact (Statement.EachText.text hcomparison).append (.bind _)

theorem WhereToken.quiet_pieces (token : WhereToken) : token.pieces.EachText IsQuiet := by
  cases token with
  | predicate p => exact p.quiet_pieces
  | openParen | closeParen | and | or => exact .text (by decide)

/-- **A text that is empty or begins with the keyword of a clause.** -/
def BeginsWithKeyword (t : String) : Prop :=
  t = "" ∨ ∃ keyword ∈ [" GROUP BY ", " HAVING ", " ORDER BY "], ∃ rest, t = keyword ++ rest

namespace BeginsWithKeyword

variable {s t : String}

theorem append (hs : BeginsWithKeyword s) (ht : BeginsWithKeyword t) :
    BeginsWithKeyword (s ++ t) := by
  rcases hs with rfl | ⟨keyword, hkeyword, rest, rfl⟩
  · rwa [String.empty_append]
  · exact .inr ⟨keyword, hkeyword, rest ++ t, String.append_assoc⟩

theorem isQuiet (h : BeginsWithKeyword t) : IsQuiet t := by
  rcases h with rfl | ⟨keyword, hkeyword, rest, rfl⟩
  · decide
  · refine isQuiet_append_of_prefix rest ?_
    revert keyword
    decide

end BeginsWithKeyword

namespace Clauses

theorem quiet_wherePieces (c : Clauses) : c.wherePieces.EachText IsQuiet := by
  unfold wherePieces
  split
  · exact .nil
  · exact (Statement.EachText.text (by decide)).append
      (.flatMap fun token _ => token.quiet_pieces)

theorem beginsWithKeyword_groupText (c : Clauses) : BeginsWithKeyword c.groupText := by
  unfold groupText
  cases c.grouping? with
  | none => exact .inl rfl
  | some g =>
    refine BeginsWithKeyword.append ?_ ?_
    · split
      · exact .inl rfl
      · exact .inr ⟨" GROUP BY ", by decide, _, rfl⟩
    · cases g.having? with
      | none => exact .inl rfl
      | some having => exact .inr ⟨" HAVING ", by decide, _, rfl⟩

theorem beginsWithKeyword_orderText (c : Clauses) : BeginsWithKeyword c.orderText := by
  unfold orderText
  cases c.ordering? with
  | none => exact .inl rfl
  | some o =>
    dsimp only
    split
    · exact .inl rfl
    · refine .inr ⟨" ORDER BY ", by decide,
        ", ".intercalate o.columns ++ (" " ++ o.direction.sql), ?_⟩
      rw [String.append_assoc, String.append_assoc]

/-- **What stands before the limit of clauses** is passed over. -/
theorem quiet_piecesBeforeLimit (c : Clauses) :
    Statement.EachText IsQuiet ([.text (c.selectText ++ " FROM "), .name c.table.name] ++
      c.joins.flatMap Join.pieces ++ c.wherePieces ++ [.text (c.groupText ++ c.orderText)]) := by
  have hselect : IsQuiet (c.selectText ++ " FROM ") := isQuiet_append_of_suffix _ (by decide)
  have hrest : IsQuiet (c.groupText ++ c.orderText) :=
    (c.beginsWithKeyword_groupText.append c.beginsWithKeyword_orderText).isQuiet
  exact ((((Statement.EachText.text hselect).append (.bind _)).append
    (.flatMap fun j _ => j.quiet_pieces)).append c.quiet_wherePieces).append (.text hrest)

/-- The limit that holds for clauses, as it is bound. -/
def boundLimit? (settings : QuerySettings) (c : Clauses) : Option Parameter :=
  (c.effectiveLimit? settings).map fun n => .value (.ofUInt64 n)

/-- **The limit that is found of clauses** is the one that holds for them. -/
theorem limitsFrom_pieces_append (settings : QuerySettings) (c : Clauses) (rest : Statement) :
    (c.pieces settings ++ rest).limitsFrom none = rest.limitsFrom (c.boundLimit? settings) := by
  have hoffset : (countPieces " OFFSET " c.offset?).EachText IsQuiet := by
    cases c.offset? with
    | none => exact .nil
    | some n => exact (Statement.EachText.text (by decide)).append (.bind _)
  unfold pieces boundLimit?
  rw [List.append_assoc, List.append_assoc,
    Statement.limitsFrom_append_of_quiet c.quiet_piecesBeforeLimit]
  cases c.effectiveLimit? settings with
  | none => exact Statement.limitsFrom_append_of_quiet hoffset none rest
  | some n => exact Statement.limitsFrom_append_of_quiet hoffset _ rest

end Clauses

namespace Query

variable {settings : QuerySettings} {q : Query}

theorem chain_eq_cons (q : Query) : q.chain = q.clauses :: q.chain.tail := by
  cases q <;> rfl

/-- **The limits that are found of a query** are those of the queries in front of it, and for what
follows its own. -/
theorem limitsFrom_statement_append (settings : QuerySettings) (q : Query) (rest : Statement) :
    (q.statement settings ++ rest).limitsFrom none =
      q.chain.tail.reverse.map (Clauses.boundLimit? settings) ++
        rest.limitsFrom (q.clauses.boundLimit? settings) := by
  induction q generalizing rest with
  | plain c => exact c.limitsFrom_pieces_append settings rest
  | withNamed name inner c ih =>
    have hfront : Statement.EachText IsQuiet [.text "WITH ", .name name, .text " AS ("] :=
      (Statement.EachText.text (by decide)).append ((Statement.EachText.bind _).append
        (.text (by decide)))
    calc ((withNamed name inner c).statement settings ++ rest).limitsFrom none
        = (inner.statement settings ++ .text ") " :: (c.pieces settings ++ rest)).limitsFrom
            none := by
          rw [statement, List.append_assoc, List.append_assoc, List.append_assoc,
            Statement.limitsFrom_append_of_quiet hfront]
          rfl
      _ = inner.chain.tail.reverse.map (Clauses.boundLimit? settings) ++
            inner.clauses.boundLimit? settings :: (c.pieces settings ++ rest).limitsFrom none :=
          ih _
      _ = inner.chain.reverse.map (Clauses.boundLimit? settings) ++
            rest.limitsFrom (c.boundLimit? settings) := by
          rw [c.limitsFrom_pieces_append, inner.chain_eq_cons, List.reverse_cons, List.map_append,
            List.append_assoc]
          rfl

/-- **The limits in the statement of a query** are the limits that hold along its chain. -/
theorem limits_statement (settings : QuerySettings) (q : Query) :
    (q.statement settings).limits = q.chain.reverse.map (Clauses.boundLimit? settings) := by
  have h := q.limitsFrom_statement_append settings []
  rw [List.append_nil] at h
  rw [chain_eq_cons, List.reverse_cons, List.map_append]
  exact h

end Query

/-! ## Limits in bounds -/

/-- **The default limit is not a bad one** if it is in bounds. -/
theorem Settings.badDefaultLimit?_eq_none_iff {q : QuerySettings} :
    badDefaultLimit? q = none ↔ ∀ n ∈ q.defaultLimit?, 1 ≤ n ∧ n ≤ q.maxLimit := by
  unfold badDefaultLimit? isAllowedLimit
  rw [Option.filter_eq_none_iff]
  refine forall₂_congr fun n _ => ?_
  rw [one_le_iff_ne_zero]
  simp

namespace Clauses

variable {s : Settings} {c : Clauses} {n : UInt64}

/-- **The limit that holds for clauses is in bounds**, be it their own or the default one. -/
theorem bounds_of_effectiveLimit? (hs : s.fault? = none) (hc : c.objections s.query = [])
    (hn : c.effectiveLimit? s.query = some n) : 1 ≤ n ∧ n ≤ s.query.maxLimit := by
  rcases Option.or_eq_some_iff.mp hn with hown | ⟨-, hdefault⟩
  · exact (Query.isProper_of_objections hc).limit n hown
  · obtain ⟨-, hbad, -⟩ := Settings.fault?_eq_none_iff.mp hs
    exact Settings.badDefaultLimit?_eq_none_iff.mp hbad n hdefault

end Clauses

namespace Query

variable {s : Settings} {q : Query}

/-- A query that nothing is objected to has no clauses that something is objected to. -/
theorem objections_of_mem_chain {settings : QuerySettings} (h : q.objections settings = []) :
    ∀ c ∈ q.chain, c.objections settings = [] := by
  induction q with
  | plain c => exact fun d hd => List.mem_singleton.mp hd ▸ h
  | withNamed name inner c ih =>
    rw [objections, List.append_eq_nil_iff, List.append_eq_nil_iff] at h
    exact List.forall_mem_cons.mpr ⟨h.2, ih h.1.2⟩

/-- **Every limit that reaches the store is in bounds.** If nothing is wrong with the settings and
the query passes the check, then the statement has a place for a limit at each level of the chain,
the innermost first, and what is bound there is a number from one through the greatest limit;
nothing is bound there only if neither the query of that level nor the settings have a limit. -/
theorem limits_of_check (hs : s.fault? = none) (hq : q.check s.query = .ok ()) :
    List.Forall₂
      (fun (c : Clauses) (limit? : Option Parameter) =>
        (∀ p, limit? = some p →
          ∃ n : UInt64, p = .value (.ofUInt64 n) ∧ 1 ≤ n ∧ n ≤ s.query.maxLimit) ∧
        (limit? = none → c.limit? = none ∧ s.query.defaultLimit? = none))
      q.chain.reverse (q.statement s.query).limits := by
  have hclauses := objections_of_mem_chain (check_eq_ok_iff.mp hq)
  rw [limits_statement, List.forall₂_map_right_iff, List.forall₂_same]
  refine fun c hc => ⟨fun p hp => ?_, fun hnone => ?_⟩
  · obtain ⟨n, hn, rfl⟩ := Option.map_eq_some_iff.mp hp
    exact ⟨n, rfl, c.bounds_of_effectiveLimit? hs (hclauses c (List.mem_reverse.mp hc)) hn⟩
  · exact Option.or_eq_none_iff.mp (Option.map_eq_none_iff.mp hnone)

/-- A named query that sets the greatest limit there is, and behind it a query that sets none and
whose condition on groups mentions a limit. -/
theorem limits_of_check_behind_named :
    let s : Settings := { (default : Settings) with query := ⟨default, some 20, 100⟩ }
    let inner : Clauses := { Clauses.ofTable (.custom "orders") with limit? := some 100 }
    let outer : Clauses :=
      { Clauses.ofTable (.custom "recent") with
        grouping? := some ⟨["state"], some "COUNT(id) > credit LIMIT "⟩
        offset? := some 5 }
    let q := withNamed "recent" (.plain inner) outer
    s.fault? = none ∧ q.check s.query = .ok () ∧
      ∃ n m : UInt64,
        (q.statement s.query).limits =
          [some (.value (.ofUInt64 n)), some (.value (.ofUInt64 m))] ∧
        (1 ≤ n ∧ n ≤ 100) ∧ 1 ≤ m ∧ m ≤ 100 := by
  intro s inner outer q
  have hs : s.fault? = none := by decide +kernel
  have hq : q.check s.query = .ok () := by decide +kernel
  have hlimits : (q.statement s.query).limits =
      [some (.value (.ofUInt64 100)), some (.value (.ofUInt64 20))] := q.limits_statement s.query
  have h := limits_of_check hs hq
  rw [hlimits] at h
  obtain ⟨⟨hinner, -⟩, h⟩ := List.forall₂_cons.mp h
  obtain ⟨⟨houter, -⟩, -⟩ := List.forall₂_cons.mp h
  obtain ⟨n, hn, hinner⟩ := hinner _ rfl
  obtain ⟨m, hm, houter⟩ := houter _ rfl
  exact ⟨hs, hq, n, m, by rw [hlimits, hn, hm], hinner, houter⟩

end Query

end ChartData
