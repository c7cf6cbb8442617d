import ChartData.Proofs.DataText
import ChartData.Proofs.ReadLevels

/-!
# Queries read back from text

A query that was read from a text is written as a text and read from that again
(`Query.ofText_text`): it is the same query, unless its chain of named queries is as long as a text
may have it. A text nests at most 127 levels, a query of a chain takes two, and so a chain of 63
named queries leaves one level for the last query. That is enough for reading a query with nothing
in it, but the query is written with its list of columns, empty as it is, and the text that is
written nests one level too many (`Query.chain_of_63_not_read_back`).

Nothing else is lost on the way. Integers and strings are read back exactly; floating-point numbers
are read in steps, which may miss by a little, and of those that a query has written the theorem
assumes that they are not missed.
-/

namespace ChartData

/-! ## Written values -/

namespace Json

variable {α : Type}

theorem readable_singleton (name : String) {j : Json} (h : j.Readable) :
    ∀ e ∈ [(name, j)], e.2.Readable := by
  intro e he
  rw [List.mem_singleton.1 he]
  exact h

theorem readable_entryOf? (name : String) {toJson : α → Json} (h : ∀ a, (toJson a).Readable)
    (a? : Option α) : ∀ e ∈ entryOf? name (a?.map toJson), e.2.Readable := by
  cases a? with
  | none => exact nofun
  | some a => exact readable_singleton name (h a)

/-- What is written of the members of a list makes a readable array. -/
theorem readable_array_map {toJson : α → Json} (h : ∀ a, (toJson a).Readable) (xs : List α) :
    (array (xs.map toJson)).Readable := by
  refine readable_array fun j hj => ?_
  obtain ⟨x, -, rfl⟩ := List.mem_map.1 hj
  exact h x

theorem readable_entryOfList (name : String) {toJson : α → Json} (h : ∀ a, (toJson a).Readable)
    (xs : List α) : ∀ e ∈ entryOfList name (xs.map toJson), e.2.Readable := by
  cases xs with
  | nil => exact nofun
  | cons x xs => exact readable_singleton name (readable_array_map h (x :: xs))

/-- An object of two runs of entries. -/
theorem forall_mem_append {entries rest : List (String × Json)}
    (h : ∀ e ∈ entries, e.2.Readable) (hr : ∀ e ∈ rest, e.2.Readable) :
    ∀ e ∈ entries ++ rest, e.2.Readable :=
  List.forall_mem_append.2 ⟨h, hr⟩

end Json

open Json

theorem Literal.readable_toJson (l : Literal) : l.toJson.Readable := by
  induction l with
  | null => exact readable_null
  | boolean b => exact readable_bool b
  | number n => exact readable_number n
  | string s => exact readable_string s
  | list items ih =>
    rw [toJson, itemsToJson_eq_map]
    refine readable_array fun j hj => ?_
    obtain ⟨l, hl, rfl⟩ := List.mem_map.1 hj
    exact ih l hl

theorem Condition.readable_toJson (c : Condition) : c.toJson.Readable := by
  have hpredicate (p : Predicate) : ∀ e ∈ predicateEntries p, e.2.Readable :=
    forall_mem_append (readable_singleton "column" (readable_string _)) <|
      forall_mem_append (readable_singleton "operator" (readable_string _))
        (readable_singleton "value" p.literal.readable_toJson)
  induction c with
  | leaf p =>
    rw [toJson]
    exact readable_object (hpredicate p)
  | all p group ih | any p group ih =>
    rw [toJson, groupToJson_eq_map]
    refine readable_object (forall_mem_append (hpredicate p) (readable_singleton _ ?_))
    refine readable_array fun j hj => ?_
    obtain ⟨c, hc, rfl⟩ := List.mem_map.1 hj
    exact ih c hc

theorem Column.readable_toJson (c : Column) : c.toJson.Readable :=
  readable_object <| forall_mem_append (forall_mem_append (forall_mem_append
    (readable_singleton _ (readable_string _))
    (readable_entryOf? _ readable_string _))
    (readable_entryOf? _ (fun _ => readable_string _) _))
    (readable_entryOf? _ readable_bool _)

theorem Expression.readable_toJson (e : Expression) : e.toJson.Readable :=
  readable_object <| forall_mem_append (readable_singleton _ (readable_string _))
    (readable_entryOf? _ readable_string _)

theorem Join.readable_toJson (j : Join) : j.toJson.Readable :=
  readable_object <| forall_mem_append (readable_singleton "table" (readable_string _)) <|
    forall_mem_append (readable_singleton "join_type" (readable_string _))
      (readable_singleton "on_clause" (readable_string _))

theorem Grouping.readable_toJson (g : Grouping) : g.toJson.Readable :=
  readable_object <| forall_mem_append
    (readable_singleton _ (readable_array_map readable_string _))
    (readable_entryOf? _ readable_string _)

theorem RowOrder.readable_toJson (o : RowOrder) : o.toJson.Readable :=
  readable_object <| forall_mem_append
    (readable_singleton "columns" (readable_array_map readable_string _))
    (readable_singleton "direction" (readable_string _))

theorem Clauses.readable_toEntries (c : Clauses) : ∀ e ∈ c.toEntries, e.2.Readable := by
  have hcount (n : UInt64) : (countToJson n).Readable := readable_number _
  unfold toEntries
  rw [Condition.groupToJson_eq_map]
  exact forall_mem_append (forall_mem_append (forall_mem_append (forall_mem_append
    (forall_mem_append (forall_mem_append (forall_mem_append (forall_mem_append
      (readable_singleton _ (readable_array_map Column.readable_toJson _))
      (readable_entryOfList _ Expression.readable_toJson _))
      (readable_singleton _ (readable_string _)))
      (readable_entryOfList _ Join.readable_toJson _))
      (readable_entryOfList _ Condition.readable_toJson _))
      (readable_entryOf? _ Grouping.readable_toJson _))
      (readable_entryOf? _ RowOrder.readable_toJson _))
      (readable_entryOf? _ hcount _))
      (readable_entryOf? _ hcount _)

/-- **What is written of a query is readable.** -/
theorem Query.readable_toJson (q : Query) : q.toJson.Readable := by
  induction q with
  | plain c => exact readable_object c.readable_toEntries
  | withNamed name inner c ih =>
    refine readable_object (forall_mem_append c.readable_toEntries (readable_singleton _ ?_))
    exact readable_object <| forall_mem_append (readable_singleton "alias" (readable_string _))
      (readable_singleton "query" ih)

/-! ## Texts of queries -/

namespace Query

/-- What is read from the text of a value is what is read from the value. -/
theorem ofText_text_of_ofText? {j : Json} (h : ofText? j.text = some j) :
    decode.ofText j.text = decode nestingLimit j := by
  unfold Decoder.ofText
  rw [h]
  rfl

/-- **What was read from a text is read back from its own text, unless its chain is too long.** A
query that was read from a text has at most 63 named queries in front. With fewer than 63, the text
that is written of it is read, as the same query; with 63 it is not. The floating-point numbers that
are written are assumed to be read back one by one. -/
theorem ofText_text {text : String} {q : Query} (h : decode.ofText text = .ok q)
    (hx : ∀ x, Token.number (some (.real x)) ∈ q.toJson.tokens → (JsonNumber.real x).ReadsBack) :
    q.depth ≤ 63 ∧
      (q.depth < 63 → decode.ofText q.toJson.text = .ok q ∧ q.equal q = true) ∧
      (q.depth = 63 → ∀ r, decode.ofText q.toJson.text ≠ .ok r) := by
  obtain ⟨j, -, hj⟩ := exists_of_bind_eq_ok h
  obtain ⟨hrecognized, hlevels, hdepth⟩ := of_decode_eq_ok hj
  unfold nestingLimit at hlevels hdepth
  rw [ofText_text_of_ofText? (Json.ofText?_text q.readable_toJson hx)]
  refine ⟨by omega, fun hq => ⟨?_, ?_⟩, fun hq r hr => ?_⟩
  · have hback := q.yields_toJson nestingLimit (by unfold nestingLimit; omega)
    rwa [hrecognized] at hback
  · have hequal := q.equal_recognized
    rwa [hrecognized] at hequal
  · have := le_of_decode_toJson q r hr
    unfold nestingLimit at this
    omega

/-! ### A chain of two queries -/

/-- A query for slow calls in the shortest form that data may have: structures as arrays of their
fields, and what is absent left out. -/
def slowCallsJson : Json :=
  .object [
    ("filter_conditions",
      .array [.array [.string "latency", .string ">",
        .number (.real ⟨false, 1023 * binade + binade / 2, by decide⟩)]]),
    ("cte_query", .array [.string "calls", .object []])]

/-- The query for slow calls. -/
def slowCalls : Query :=
  withNamed "calls" (plain default)
    { (default : Clauses) with
      conditions := [.leaf ⟨"latency", .greater,
        .number (.real ⟨false, 1023 * binade + binade / 2, by decide⟩)⟩] }

/-- The text of slow calls is read, and so is what is written of them. -/
theorem ofText_text_of_slowCalls :
    decode.ofText "\x7b\"filter_conditions\":[[\"latency\",\">\",1.5]],\"cte_query\":[\"calls\",\x7b\x7d]\x7d" =
        .ok slowCalls ∧
      (∀ x, Token.number (some (.real x)) ∈ slowCalls.toJson.tokens →
        (JsonNumber.real x).ReadsBack) ∧
      slowCalls.depth < 63 ∧ decode.ofText slowCalls.toJson.text = .ok slowCalls := by
  have htext : slowCallsJson.text = "\x7b\"filter_conditions\":[[\"latency\",\">\",1.5]],\"cte_query\":[\"calls\",\x7b\x7d]\x7d" := by
    decide +kernel
  have hread : slowCallsJson.ReadsBack := by decide +kernel
  have h : decode.ofText slowCallsJson.text = .ok slowCalls :=
    ofText_text_of_ofText? hread.ofText?_text
  have hwritten : slowCalls.toJson.ReadsBack := by decide +kernel
  have hx : ∀ x, Token.number (some (.real x)) ∈ slowCalls.toJson.tokens →
      (JsonNumber.real x).ReadsBack := fun x hmem => hwritten _ hmem
  have hback := (ofText_text h hx).2.1 (by decide)
  rw [htext] at h
  exact ⟨h, hx, by decide, hback.1⟩

/-! ### The longest chain -/

/-- A chain of named queries with nothing in them, in the shortest form that data may have. -/
def bareChainJson : Nat → Json
  | 0 => .object []
  | n + 1 =>
    .object [("cte_query", .object [("alias", .string "a"), ("query", bareChainJson n)])]

/-- The chain of named queries with nothing in them. -/
def bareChain : Nat → Query
  | 0 => plain default
  | n + 1 => withNamed "a" (bareChain n) default

@[simp] theorem depth_bareChain (n : Nat) : (bareChain n).depth = n := by
  induction n with
  | zero => rfl
  | succ n ih => rw [bareChain, depth, ih]

/-- **A chain is read within two levels for each named query and one for the last query.** -/
theorem decode_bareChainJson (n : Nat) :
    decode (2 * n + 1) (bareChainJson n) = .ok (bareChain n) := by
  induction n with
  | zero => rfl
  | succ n ih =>
    have hfields : Decode.fields fieldNames (2 * n + 3) (bareChainJson (n + 1)) = .ok ⟨2 * n + 2,
        [("cte_query", .object [("alias", .string "a"), ("query", bareChainJson n)])]⟩ :=
      Decode.fields_object (List.singleton_sublist.2 (show "cte_query" ∈ fieldNames by decide))
        (by decide)
    have hclauses : Clauses.ofFields ⟨2 * n + 2,
        [("cte_query", .object [("alias", .string "a"), ("query", bareChainJson n)])]⟩ =
          .ok default := rfl
    have hnamed : (Decode.Fields.mk (2 * n + 2)
        [("cte_query", .object [("alias", .string "a"), ("query", bareChainJson n)])]).optional
          "cte_query" (fun _ => decodeNamed (decode (2 * n + 1)) (2 * n + 2)) =
            .ok (some ("a", bareChain n)) := by
      unfold Decode.Fields.optional Decode.Fields.orElse
      rw [List.lookup_cons_self]
      show (decodeNamed (decode (2 * n + 1)) (2 * n + 1 + 1) _).map some = _
      rw [decodeNamed_eq_ok ih]
      rfl
    show decodeWith (decodeNamed (decode (2 * n + 1)) (2 * n + 2)) (2 * n + 3) _ = _
    unfold decodeWith
    rw [bind_of_eq_ok hfields, bind_of_eq_ok hclauses, bind_of_eq_ok hnamed]
    rfl

theorem readsBack_bareChainJson (n : Nat) : (bareChainJson n).ReadsBack := by
  induction n with
  | zero => exact readsBack_object nofun
  | succ n ih =>
    refine readsBack_object (List.forall_mem_singleton.2 (readsBack_object ?_))
    exact List.forall_mem_cons.2 ⟨readsBack_string "a", List.forall_mem_singleton.2 ih⟩

theorem readsBack_toJson_bareChain (n : Nat) : (bareChain n).toJson.ReadsBack := by
  have hclauses : ∀ e ∈ (default : Clauses).toEntries, e.2.ReadsBack := by decide
  induction n with
  | zero => exact readsBack_object hclauses
  | succ n ih =>
    refine readsBack_object (List.forall_mem_append.2 ⟨hclauses, ?_⟩)
    refine List.forall_mem_singleton.2 (readsBack_object ?_)
    exact List.forall_mem_cons.2 ⟨readsBack_string "a", List.forall_mem_singleton.2 ih⟩

/-- **A chain of 63 named queries is not read back.** The text of the chain is read, and the text
that is written of what was read is not: there the last query nests one level deeper, by its empty
list of columns. -/
theorem chain_of_63_not_read_back :
    decode.ofText (bareChainJson 63).text = .ok (bareChain 63) ∧
      ∀ r, decode.ofText (bareChain 63).toJson.text ≠ .ok r := by
  have h : decode.ofText (bareChainJson 63).text = .ok (bareChain 63) :=
    (ofText_text_of_ofText? (readsBack_bareChainJson 63).ofText?_text).trans
      (decode_bareChainJson 63)
  refine ⟨h, fun r hr => ?_⟩
  rw [ofText_text_of_ofText? (readsBack_toJson_bareChain 63).ofText?_text] at hr
  have hlevels := le_of_decode_toJson _ r hr
  rw [depth_bareChain] at hlevels
  exact absurd hlevels (by decide)

end Query

end ChartData
