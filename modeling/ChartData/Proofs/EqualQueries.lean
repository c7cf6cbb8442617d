import ChartData.Proofs.QueryData
import ChartData.Proofs.ZeroSigns
import Mathlib.Data.List.Forall2

/-!
# Equal queries

Two queries that are equal need not be the same: a table may be written as a known one or as a
custom one of the same name, and a zero may have a sign. What shows of a query should not depend on
which of the equal ones it is.

Both differences have a normal form. `Query.recognized` writes every table as a known one if it can
be, and `Query.unsignZeros` takes the sign off every zero. Two queries are equal exactly if they are
the same query in both normal forms (`Query.equal_iff`), which makes equality an equivalence at
once, and it leaves one question for everything that is made of a query, what it makes of a normal
form. Of recognized tables it makes the same (`Query.toJson_recognized`,
`Query.statement_recognized`), for only their names are ever looked at. Of unsigned zeros it makes
the same with its own zeros unsigned (`Query.toJson_unsignZeros`, `Query.statement_unsignZeros`).
-/

namespace ChartData

/-! ## Equality by normal forms -/

@[simp] theorem Table.name_recognized (t : Table) : t.recognized.name = t.name := name_ofName t.name

/-- Tables are the same if they are recognized as the same. -/
theorem Table.equal_iff {t u : Table} : t.equal u = true ↔ t.recognized = u.recognized := by
  unfold equal
  rw [beq_iff_eq]
  refine ⟨congrArg ofName, fun h => ?_⟩
  rw [← t.name_recognized, h, u.name_recognized]

theorem Join.equal_iff {j k : Join} : j.equal k = true ↔ j.recognized = k.recognized := by
  unfold equal recognized
  rw [Bool.and_eq_true, Bool.and_eq_true, beq_iff_eq, beq_iff_eq, Table.equal_iff, mk.injEq,
    and_assoc]

/-- The clauses with no sign at any zero. -/
def Clauses.unsignZeros (c : Clauses) : Clauses :=
  { c with conditions := c.conditions.map Condition.unsignZeros }

/-- **The query with no sign at any zero.** -/
def Query.unsignZeros : Query → Query
  | plain c => plain c.unsignZeros
  | withNamed name inner c => withNamed name inner.unsignZeros c.unsignZeros

theorem Clauses.equal_iff {c d : Clauses} :
    c.equal d = true ↔ c.recognized.unsignZeros = d.recognized.unsignZeros := by
  have hjoins : (c.joins.length == d.joins.length) = true ∧
      ((c.joins.zip d.joins).all fun x => x.1.equal x.2) = true ↔
        c.joins.map Join.recognized = d.joins.map Join.recognized := by
    rw [← Bool.and_eq_true, ← isEqv_eq_length_and_zip]
    exact isEqv_iff_map_eq (f := Join.recognized) (fun _ _ _ => Join.equal_iff) d.joins
  have hconditions : Condition.equalGroups c.conditions d.conditions = true ↔
      c.conditions.map Condition.unsignZeros = d.conditions.map Condition.unsignZeros := by
    rw [Condition.equalGroups_eq_isEqv]
    exact isEqv_iff_map_eq (f := Condition.unsignZeros) (fun _ _ _ => Condition.equal_iff)
      d.conditions
  unfold equal unsignZeros recognized
  simp only [Bool.and_eq_true, mk.injEq, Table.equal_iff, hconditions, ← hjoins]
  simp only [beq_iff_eq, and_assoc]

/-- **Queries are equal if they are the same query**, written with recognized tables and with no
sign at any zero. -/
theorem Query.equal_iff {p q : Query} :
    p.equal q = true ↔ p.recognized.unsignZeros = q.recognized.unsignZeros := by
  induction p generalizing q with
  | plain c =>
    cases q with
    | plain d => simp only [equal, recognized, unsignZeros, plain.injEq, Clauses.equal_iff]
    | withNamed => simp [equal, recognized, unsignZeros]
  | withNamed m p c ih =>
    cases q with
    | plain => simp [equal, recognized, unsignZeros]
    | withNamed n q d =>
      simp only [equal, recognized, unsignZeros, withNamed.injEq, Bool.and_eq_true, beq_iff_eq, ih,
        Clauses.equal_iff, and_assoc]

/-- **Equality of queries is an equivalence.** -/
theorem Query.equal_equivalence : Equivalence fun p q : Query => p.equal q = true where
  refl _ := equal_iff.mpr rfl
  symm h := equal_iff.mpr (equal_iff.mp h).symm
  trans h h' := equal_iff.mpr ((equal_iff.mp h).trans (equal_iff.mp h'))

/-! ## What shows of a table is its name -/

theorem Table.toJson_recognized (t : Table) : t.recognized.toJson = t.toJson :=
  congrArg Json.string t.name_recognized

theorem Join.toJson_recognized (j : Join) : j.recognized.toJson = j.toJson := by
  unfold toJson recognized
  rw [Table.toJson_recognized]

theorem Join.objections_recognized (j : Join) : j.recognized.objections = j.objections := by
  unfold objections recognized
  rw [Table.name_recognized]

theorem Join.pieces_recognized (j : Join) : j.recognized.pieces = j.pieces := by
  unfold pieces recognized
  rw [Table.name_recognized]

namespace Clauses

theorem toEntries_recognized (c : Clauses) : c.recognized.toEntries = c.toEntries := by
  have hjoins : (c.joins.map Join.recognized).map Join.toJson = c.joins.map Join.toJson := by
    rw [List.map_map]
    exact List.map_congr_left fun j _ => j.toJson_recognized
  unfold toEntries recognized
  rw [Table.toJson_recognized, hjoins]

theorem objections_recognized (settings : QuerySettings) (c : Clauses) :
    c.recognized.objections settings = c.objections settings := by
  have hjoins : (c.joins.map Join.recognized).flatMap Join.objections =
      c.joins.flatMap Join.objections := by
    rw [List.flatMap_map]
    exact List.flatMap_congr fun j _ => j.objections_recognized
  unfold objections recognized
  rw [Table.name_recognized, hjoins]

theorem pieces_recognized (settings : QuerySettings) (c : Clauses) :
    c.recognized.pieces settings = c.pieces settings := by
  have hjoins : (c.joins.map Join.recognized).flatMap Join.pieces =
      c.joins.flatMap Join.pieces := by
    rw [List.flatMap_map]
    exact List.flatMap_congr fun j _ => j.pieces_recognized
  unfold pieces
  rw [show c.recognized.table.name = c.table.name from c.table.name_recognized,
    show c.recognized.joins = c.joins.map Join.recognized from rfl, hjoins]
  rfl

end Clauses

namespace Query

/-- **A query is written as its recognized form is.** -/
theorem toJson_recognized (q : Query) : q.recognized.toJson = q.toJson := by
  induction q with
  | plain c => rw [recognized, toJson, toJson, c.toEntries_recognized]
  | withNamed name inner c ih => rw [recognized, toJson, toJson, c.toEntries_recognized, ih]

/-- **The same is wrong with a query as with its recognized form.** -/
theorem objections_recognized (settings : QuerySettings) (q : Query) :
    q.recognized.objections settings = q.objections settings := by
  induction q with
  | plain c => exact c.objections_recognized settings
  | withNamed name inner c ih =>
    rw [recognized, objections, objections, c.objections_recognized, ih]

/-- **A query is the same statement as its recognized form.** -/
theorem statement_recognized (settings : QuerySettings) (q : Query) :
    q.recognized.statement settings = q.statement settings := by
  induction q with
  | plain c => exact c.pieces_recognized settings
  | withNamed name inner c ih =>
    rw [recognized, statement, statement, c.pieces_recognized, ih]

theorem depth_recognized (q : Query) : q.recognized.depth = q.depth := by
  induction q with
  | plain c => rfl
  | withNamed name inner c ih => rw [recognized, depth, depth, ih]

theorem recognized_restrictedTo (dataset : String) (q : Query) :
    (q.restrictedTo dataset).recognized = q.recognized.restrictedTo dataset := by
  cases q <;> rfl

end Query

/-! ## What shows of a zero is unsigned with it

Of the clauses of a query only the conditions can have zeros with a sign.
-/

theorem unsignZeros_stringsToJson (strings : List String) :
    (stringsToJson strings).unsignZeros = stringsToJson strings := by
  unfold stringsToJson
  rw [Json.unsignZeros, Json.itemsUnsignZeros_eq_map, Json.unsignZeros_map fun _ => rfl]

theorem Column.unsignZeros_toJson (d : Column) : d.toJson.unsignZeros = d.toJson := by
  unfold toJson
  simp only [Json.unsignZeros, Json.entriesUnsignZeros_append, Json.entriesUnsignZeros_entryOf?]
  rw [Json.unsignZeros_map? fun _ => rfl, Json.unsignZeros_map? fun _ => rfl,
    Json.unsignZeros_map? fun _ => rfl]
  rfl

theorem Expression.unsignZeros_toJson (e : Expression) : e.toJson.unsignZeros = e.toJson := by
  unfold toJson
  rw [Json.unsignZeros, Json.entriesUnsignZeros_append, Json.entriesUnsignZeros_entryOf?,
    Json.unsignZeros_map? fun _ => rfl]
  rfl

theorem Join.unsignZeros_toJson (j : Join) : j.toJson.unsignZeros = j.toJson := rfl

theorem Grouping.unsignZeros_toJson (g : Grouping) : g.toJson.unsignZeros = g.toJson := by
  unfold toJson
  rw [Json.unsignZeros, Json.entriesUnsignZeros_append, Json.entriesUnsignZeros_entryOf?,
    Json.unsignZeros_map? fun _ => rfl, Json.entriesUnsignZeros, unsignZeros_stringsToJson]
  rfl

theorem RowOrder.unsignZeros_toJson (o : RowOrder) : o.toJson.unsignZeros = o.toJson := by
  unfold toJson
  rw [Json.unsignZeros, Json.entriesUnsignZeros, unsignZeros_stringsToJson]
  rfl

namespace Clauses

theorem toEntries_unsignZeros (c : Clauses) :
    c.unsignZeros.toEntries = Json.entriesUnsignZeros c.toEntries := by
  have hconditions : Condition.groupToJson (c.conditions.map Condition.unsignZeros) =
      (Condition.groupToJson c.conditions).map Json.unsignZeros := by
    rw [Condition.groupToJson_eq_map, Condition.groupToJson_eq_map, List.map_map, List.map_map]
    exact List.map_congr_left fun d _ => d.toJson_unsignZeros
  unfold toEntries
  simp only [Json.entriesUnsignZeros_append, Json.entriesUnsignZeros_entryOf?,
    Json.entriesUnsignZeros_entryOfList, Json.entriesUnsignZeros, Json.unsignZeros,
    Json.itemsUnsignZeros_eq_map, Json.unsignZeros_map Column.unsignZeros_toJson,
    Json.unsignZeros_map Expression.unsignZeros_toJson,
    Json.unsignZeros_map Join.unsignZeros_toJson,
    Json.unsignZeros_map? Grouping.unsignZeros_toJson,
    Json.unsignZeros_map? RowOrder.unsignZeros_toJson, ← hconditions]
  rw [Json.unsignZeros_map? fun _ => rfl, Json.unsignZeros_map? fun _ => rfl]
  rfl

theorem objections_unsignZeros (settings : QuerySettings) (c : Clauses) :
    c.unsignZeros.objections settings = c.objections settings := by
  have hconditions : (c.conditions.map Condition.unsignZeros).flatMap Condition.objections =
      c.conditions.flatMap Condition.objections := by
    rw [List.flatMap_map]
    exact List.flatMap_congr fun d _ => d.objections_unsignZeros
  unfold objections unsignZeros
  rw [hconditions]

theorem wherePieces_unsignZeros (c : Clauses) :
    c.unsignZeros.wherePieces = c.wherePieces.unsignZeros := by
  unfold wherePieces
  rw [show c.unsignZeros.conditions = c.conditions.map Condition.unsignZeros from rfl]
  cases c.conditions with
  | nil => rfl
  | cons first rest =>
    have hrest : (rest.map Condition.unsignZeros).flatMap (fun d => [.text " AND "] ++ d.pieces) =
        Statement.unsignZeros (rest.flatMap fun d => [.text " AND "] ++ d.pieces) := by
      rw [List.flatMap_map, Statement.unsignZeros_flatMap]
      refine List.flatMap_congr fun d _ => ?_
      rw [Statement.unsignZeros_append, d.pieces_unsignZeros]
      rfl
    rw [List.map_cons, Condition.conjunctionPieces_cons, Condition.conjunctionPieces_cons, hrest,
      first.pieces_unsignZeros]
    show _ = .text " WHERE " :: Statement.unsignZeros (_ ++ _)
    rw [Statement.unsignZeros_append]
    rfl

theorem unsignZeros_countPieces (keyword : String) (n? : Option UInt64) :
    (countPieces keyword n?).unsignZeros = countPieces keyword n? := by
  cases n? <;> rfl

theorem unsignZeros_joins (joins : List Join) :
    Statement.unsignZeros (joins.flatMap Join.pieces) = joins.flatMap Join.pieces := by
  rw [Statement.unsignZeros_flatMap]
  rfl

theorem pieces_unsignZeros (settings : QuerySettings) (c : Clauses) :
    c.unsignZeros.pieces settings = (c.pieces settings).unsignZeros := by
  unfold pieces
  simp only [Statement.unsignZeros_append, ← wherePieces_unsignZeros, unsignZeros_countPieces,
    unsignZeros_joins]
  rfl

end Clauses

namespace Query

/-- **A query with its zeros unsigned is written as the query is**, with the zeros of that
unsigned. -/
theorem toJson_unsignZeros (q : Query) : q.unsignZeros.toJson = q.toJson.unsignZeros := by
  induction q with
  | plain c => exact congrArg Json.object c.toEntries_unsignZeros
  | withNamed name inner c ih =>
    rw [unsignZeros, toJson, toJson, c.toEntries_unsignZeros, ih, Json.unsignZeros,
      Json.entriesUnsignZeros_append]
    rfl

/-- **The same is wrong with a query whatever the signs of its zeros.** -/
theorem objections_unsignZeros (settings : QuerySettings) (q : Query) :
    q.unsignZeros.objections settings = q.objections settings := by
  induction q with
  | plain c => exact c.objections_unsignZeros settings
  | withNamed name inner c ih =>
    rw [unsignZeros, objections, objections, c.objections_unsignZeros, ih]

/-- **A query with its zeros unsigned is the same statement**, with the zeros of that unsigned. -/
theorem statement_unsignZeros (settings : QuerySettings) (q : Query) :
    q.unsignZeros.statement settings = (q.statement settings).unsignZeros := by
  induction q with
  | plain c => exact c.pieces_unsignZeros settings
  | withNamed name inner c ih =>
    rw [unsignZeros, statement, statement, c.pieces_unsignZeros, ih, Statement.unsignZeros_append,
      Statement.unsignZeros_append, Statement.unsignZeros_append]
    rfl

theorem depth_unsignZeros (q : Query) : q.unsignZeros.depth = q.depth := by
  induction q with
  | plain c => rfl
  | withNamed name inner c ih => rw [unsignZeros, depth, depth, ih]

theorem unsignZeros_restrictedTo (dataset : String) (q : Query) :
    (q.restrictedTo dataset).unsignZeros = q.unsignZeros.restrictedTo dataset := by
  cases q <;> simp [restrictedTo, mapClauses, withClauses, clauses, unsignZeros,
    Clauses.unsignZeros, Condition.compare, Condition.unsignZeros, Predicate.unsignZeros,
    Literal.unsignZeros]

/-! ## Equal queries are told apart by nothing -/

section

variable {p q : Query}

/-- What is the same for queries whose tables are recognized and for queries whose zeros are
unsigned is the same for equal queries. -/
theorem eq_of_equal {α : Type} {f : Query → α} (hrecognized : ∀ r, f r.recognized = f r)
    (hunsignZeros : ∀ r, f r.unsignZeros = f r) (h : p.equal q = true) : f p = f q := by
  rw [← hrecognized p, ← hunsignZeros, equal_iff.mp h, hunsignZeros, hrecognized]

/-- Equal queries are written as equal values. -/
theorem toJson_equal_of_equal (h : p.equal q = true) : p.toJson.equal q.toJson = true := by
  rw [Json.equal_iff, ← p.toJson_recognized, ← q.toJson_recognized, ← toJson_unsignZeros,
    ← toJson_unsignZeros, equal_iff.mp h]

/-- **Equal queries are the same statement** but for the signs of its zeros. -/
theorem statement_unsignZeros_of_equal (settings : QuerySettings) (h : p.equal q = true) :
    (p.statement settings).unsignZeros = (q.statement settings).unsignZeros := by
  rw [← p.statement_recognized, ← q.statement_recognized, ← statement_unsignZeros,
    ← statement_unsignZeros, equal_iff.mp h]

theorem text_eq_of_equal (settings : QuerySettings) (h : p.equal q = true) :
    (p.statement settings).text = (q.statement settings).text := by
  rw [← Statement.text_unsignZeros, statement_unsignZeros_of_equal settings h,
    Statement.text_unsignZeros]

theorem parameters_equal_of_equal (settings : QuerySettings) (h : p.equal q = true) :
    List.Forall₂ (fun a b => Parameter.equal a b = true) (p.statement settings).parameters
      (q.statement settings).parameters := by
  have hsame : (p.statement settings).parameters.map Parameter.unsignZeros =
      (q.statement settings).parameters.map Parameter.unsignZeros := by
    rw [← Statement.parameters_unsignZeros, ← Statement.parameters_unsignZeros,
      statement_unsignZeros_of_equal settings h]
  simp only [Parameter.equal_iff]
  rwa [← List.forall₂_eq_eq_eq, List.forall₂_map_left_iff, List.forall₂_map_right_iff] at hsame

theorem restrictedTo_equal_of_equal (dataset : String) (h : p.equal q = true) :
    (p.restrictedTo dataset).equal (q.restrictedTo dataset) = true := by
  rw [equal_iff, recognized_restrictedTo, recognized_restrictedTo, unsignZeros_restrictedTo,
    unsignZeros_restrictedTo, equal_iff.mp h]

end

/-- **Equality of queries is a congruence.** It is an equivalence, and two equal queries are told
apart by nothing: they are written as equal values, the same is wrong with them, they are statements
of the same text with equal parameters, they are equally deep, and restricted to a dataset or named
in front of another query they are equal again. If they differ in no more than how known tables are
spelled, they are even written as the same value and are the same statement. -/
theorem equal_is_congruence :
    Equivalence (fun p q : Query => p.equal q = true) ∧
      ∀ p q : Query, p.equal q = true → ∀ (settings : QuerySettings) (dataset : String),
        p.toJson.equal q.toJson = true ∧
        p.objections settings = q.objections settings ∧
        p.check settings = q.check settings ∧
        (p.statement settings).text = (q.statement settings).text ∧
        List.Forall₂ (fun a b => Parameter.equal a b = true) (p.statement settings).parameters
          (q.statement settings).parameters ∧
        p.depth = q.depth ∧
        (p.restrictedTo dataset).equal (q.restrictedTo dataset) = true ∧
        (∀ (r : Query) (name : String), (r.naming name p).equal (r.naming name q) = true) ∧
        (p.recognized = q.recognized →
          p.toJson = q.toJson ∧ p.statement settings = q.statement settings ∧
            (p.restrictedTo dataset).recognized = (q.restrictedTo dataset).recognized) := by
  refine ⟨equal_equivalence, fun p q h settings dataset => ?_⟩
  have hobjections : p.objections settings = q.objections settings :=
    eq_of_equal (objections_recognized settings) (objections_unsignZeros settings) h
  have hdepth : p.depth = q.depth := eq_of_equal depth_recognized depth_unsignZeros h
  refine ⟨toJson_equal_of_equal h, hobjections, ?_, text_eq_of_equal settings h,
    parameters_equal_of_equal settings h, hdepth, restrictedTo_equal_of_equal dataset h, ?_, ?_⟩
  · unfold check
    rw [hobjections]
  · intro r name
    rw [naming, naming, equal_iff, recognized, recognized, unsignZeros, unsignZeros,
      equal_iff.mp h]
  · intro hspelling
    refine ⟨?_, ?_, ?_⟩
    · rw [← p.toJson_recognized, hspelling, q.toJson_recognized]
    · rw [← p.statement_recognized, hspelling, q.statement_recognized]
    · rw [recognized_restrictedTo, hspelling, recognized_restrictedTo]

/-- Two queries that spell every table differently, and no zero with the same sign. -/
theorem equal_is_congruence_of_spellings :
    ∃ p q : Query,
      p.clauses.table ≠ q.clauses.table ∧ p.equal q = true ∧ p.toJson.equal q.toJson = true ∧
      (p.statement default).text = (q.statement default).text ∧
      (q.statement default).text =
        "WITH ? AS (SELECT * FROM ? LEFT JOIN ? ON x = y WHERE (a IN (?) OR b IS NULL) LIMIT ?) " ++
          "SELECT * FROM ? LEFT JOIN ? ON x = y WHERE (a IN (?) OR b IS NULL) LIMIT ?" ∧
      List.Forall₂ (fun a b => Parameter.equal a b = true) (p.statement default).parameters
        (q.statement default).parameters := by
  let level (table joined : Table) (zero : Finite64) : Clauses :=
    { Clauses.ofTable table with
      joins := [⟨joined, .left, "x = y"⟩]
      conditions :=
        [.any ⟨"a", .isIn, .list [.number (.real zero)]⟩ [.leaf ⟨"b", .isNull, .null⟩]] }
  let p := withNamed "recent" (plain (level (.known .topics) (.custom "events") ⟨false, 0⟩))
    (level (.custom "events") (.known .topics) ⟨true, 0⟩)
  let q := withNamed "recent" (plain (level (.custom "topics") (.known .events) ⟨true, 0⟩))
    (level (.known .events) (.custom "topics") ⟨false, 0⟩)
  have h : p.equal q = true := by decide +kernel
  obtain ⟨hjson, -, -, htext, hparameters, -⟩ := equal_is_congruence.2 p q h default "dataset"
  exact ⟨p, q, nofun, h, hjson, htext, by decide +kernel, hparameters⟩

end Query

end ChartData
