import ChartData.Proofs.QueryData

/-!
# The levels that reading enters

What a decoder reads out of a value says something about the levels it was allowed to enter
(`Decoder.Reads`): a structure takes one, a list takes one, and so on down. So what has been read
within some levels is written within them again – a structure as an object of the same nesting as
the array it may have been read from, what was passed over not at all.

There is one exception. The columns of a query are written even if there are none, and the empty
list of them takes a level that reading did not. A chain of queries, each of which takes two levels,
reaches the last level with a query of one level that has nothing in it, and that query is written
with two (`Query.decode_eq_ok`).

The proofs take the steps of a decoder apart in the order it takes them, one lemma for each decoder
saying all that its success says.
-/

namespace ChartData

open Decode

variable {α β : Type}

/-! ## Success of a sequence of steps -/

/-- Where a sequence of steps succeeds, the first step does. -/
theorem exists_of_bind_eq_ok {ε : Type} {x : Except ε α} {f : α → Except ε β} {b : β}
    (h : (x >>= f) = .ok b) : ∃ a, x = .ok a ∧ f a = .ok b := by
  cases x with
  | error e => cases h
  | ok a => exact ⟨a, rfl, h⟩

/-- Where all items of a list are read, each result is read from one of them. -/
theorem forall_mem_of_mapM_eq_ok {ε : Type} {f : β → Except ε α} {xs : List β} {ys : List α}
    (h : xs.mapM f = .ok ys) : ∀ y ∈ ys, ∃ x ∈ xs, f x = .ok y := by
  induction xs generalizing ys with
  | nil =>
    cases h
    exact nofun
  | cons x xs ih =>
    rw [List.mapM_cons] at h
    obtain ⟨y, hy, h⟩ := exists_of_bind_eq_ok h
    obtain ⟨zs, hzs, h⟩ := exists_of_bind_eq_ok h
    cases h
    intro z hz
    rcases List.mem_cons.1 hz with rfl | hz
    · exact ⟨x, List.mem_cons_self, hy⟩
    · obtain ⟨w, hw, hz⟩ := ih hzs z hz
      exact ⟨w, List.mem_cons_of_mem x hw, hz⟩

/-- **Whether a decoder reads a structure** out of some value, within the levels. -/
def Decoder.Reads (d : Decoder α) (levels : Nat) (a : α) : Prop := ∃ j, d levels j = .ok a

/-- **A decoder fits what it reads** if that is written within the levels it was read within. -/
def Decoder.Fits (d : Decoder α) (toJson : α → Json) : Prop :=
  ∀ levels a, d.Reads levels a → (toJson a).depth ≤ levels

namespace Json

/-- Items that are written from a list nest no deeper than a bound if each of them does not. -/
theorem itemsDepth_map_le {toJson : α → Json} {xs : List α} {n : Nat}
    (h : ∀ x ∈ xs, (toJson x).depth ≤ n) : itemsDepth (xs.map toJson) ≤ n := by
  induction xs with
  | nil => exact Nat.zero_le n
  | cons x xs ih =>
    rw [List.map_cons, itemsDepth]
    exact Nat.max_le.2 ⟨h x List.mem_cons_self, ih fun y hy => h y (List.mem_cons_of_mem x hy)⟩

/-- An object takes a level. -/
theorem depth_object_le {entries : List (String × Json)} {n : Nat} (h : entriesDepth entries ≤ n) :
    (object entries).depth ≤ n + 1 := by
  rw [depth]
  exact Nat.succ_le_succ h

theorem entriesDepth_append_le {entries rest : List (String × Json)} {n : Nat}
    (h : entriesDepth entries ≤ n) (hr : entriesDepth rest ≤ n) :
    entriesDepth (entries ++ rest) ≤ n := by
  rw [entriesDepth_append]
  exact Nat.max_le.2 ⟨h, hr⟩

theorem entriesDepth_singleton (name : String) (j : Json) : entriesDepth [(name, j)] = j.depth :=
  Nat.max_zero _

end Json

namespace Decode

/-- **A structure takes a level.** -/
theorem levels_of_fields {names : List String} {levels : Nat} {j : Json} {f : Fields}
    (h : fields names levels j = .ok f) : levels = f.levels + 1 := by
  unfold fields at h
  split at h
  · dsimp only at h
    split at h
    · cases h
      rfl
    · cases h
  · split at h
    · cases h
      rfl
    · cases h
  · cases h

theorem fits_string : string.Fits .string := fun levels _ _ => Nat.zero_le levels

theorem fits_bool : bool.Fits .bool := fun levels _ _ => Nat.zero_le levels

theorem fits_uint64 : uint64.Fits Clauses.countToJson := fun levels _ _ => Nat.zero_le levels

theorem fits_choice (ofName? : String → Option α) (toName : α → String) :
    (choice ofName?).Fits fun a => .string (toName a) :=
  fun levels _ _ => Nat.zero_le levels

/-- **A list takes a level**, and its items are read within the others. -/
theorem reads_of_list {d : Decoder α} {levels : Nat} {xs : List α} (h : (list d).Reads levels xs) :
    ∃ l, levels = l + 1 ∧ ∀ x ∈ xs, d.Reads l x := by
  obtain ⟨j, h⟩ := h
  unfold list at h
  split at h
  · next l items =>
    refine ⟨l, rfl, fun x hx => ?_⟩
    obtain ⟨item, -, hitem⟩ := forall_mem_of_mapM_eq_ok h x hx
    exact ⟨item, hitem⟩
  · cases h

/-- **A list fits** if its items do. -/
theorem fits_list {d : Decoder α} {toJson : α → Json} (hd : d.Fits toJson) :
    (list d).Fits fun xs => .array (xs.map toJson) := by
  intro levels xs h
  obtain ⟨l, rfl, hxs⟩ := reads_of_list h
  rw [Json.depth]
  exact Nat.succ_le_succ (Json.itemsDepth_map_le fun x hx => hd l x (hxs x hx))

/-- Something that is not null is read as what it is. -/
theorem exists_of_nullable_eq_ok {d : Decoder α} {levels : Nat} {j : Json} {a? : Option α}
    (h : nullable d levels j = .ok a?) (hj : j ≠ .null) :
    ∃ a, a? = some a ∧ d levels j = .ok a := by
  rw [nullable_of_ne_null hj] at h
  cases hd : d levels j with
  | error e =>
    rw [hd] at h
    cases h
  | ok a =>
    rw [hd] at h
    cases h
    exact ⟨a, rfl, rfl⟩

namespace Fields

variable {f : Fields} {name : String} {d : Decoder α} {a default : α} {a? : Option α}

/-- A field that has to be written is read. -/
theorem reads_of_required (h : f.required name d = .ok a) : d.Reads f.levels a := by
  unfold required at h
  split at h
  · next j _ => exact ⟨j, h⟩
  · cases h

/-- A field is read or its default is taken. -/
theorem reads_of_orElse (h : f.orElse name default d = .ok a) :
    a = default ∨ d.Reads f.levels a := by
  unfold orElse at h
  split at h
  · next j _ => exact .inr ⟨j, h⟩
  · cases h
    exact .inl rfl

/-- What is there of a field that may be absent is read. -/
theorem reads_of_optional (h : f.optional name d = .ok a?) : ∀ a ∈ a?, d.Reads f.levels a := by
  rintro a rfl
  rcases reads_of_orElse h with h | ⟨j, h⟩
  · cases h
  · by_cases hj : j = .null
    · subst hj
      cases h
    · obtain ⟨b, hb, hread⟩ := exists_of_nullable_eq_ok h hj
      cases hb
      exact ⟨j, hread⟩

/-- What stands under the name of a field with a default is read. -/
theorem eq_ok_of_orElse {j : Json} (h : f.orElse name default d = .ok a)
    (hj : f.written.lookup name = some j) : d f.levels j = .ok a := by
  unfold orElse at h
  rwa [hj] at h

/-- What stands under the name of a field that may be absent is read, unless it is null. -/
theorem exists_of_optional {j : Json} (h : f.optional name d = .ok a?)
    (hj : f.written.lookup name = some j) (hn : j ≠ .null) : ∃ a, d f.levels j = .ok a := by
  obtain ⟨a, -, ha⟩ := exists_of_nullable_eq_ok (eq_ok_of_orElse h hj) hn
  exact ⟨a, ha⟩

/-- The entry of a field that may be absent nests no deeper than the field was read. -/
theorem entriesDepth_optional_le {toJson : α → Json} (hd : d.Fits toJson)
    (h : f.optional name d = .ok a?) :
    Json.entriesDepth (Json.entryOf? name (a?.map toJson)) ≤ f.levels := by
  cases a? with
  | none => exact Nat.zero_le _
  | some a =>
    show Json.entriesDepth [(name, toJson a)] ≤ _
    rw [Json.entriesDepth_singleton]
    exact hd f.levels a (reads_of_optional h a rfl)

/-- A list that is left out where it is empty is written within the levels that it was read
within. -/
theorem entriesDepth_list_le {toJson : α → Json} {xs : List α} (hd : d.Fits toJson)
    (h : f.orElse name [] (list d) = .ok xs) :
    Json.entriesDepth (entryOfList name (xs.map toJson)) ≤ f.levels := by
  cases xs with
  | nil => exact Nat.zero_le _
  | cons x xs =>
    show Json.entriesDepth [(name, .array ((x :: xs).map toJson))] ≤ _
    rw [Json.entriesDepth_singleton]
    rcases reads_of_orElse h with h | h
    · cases h
    · exact fits_list hd f.levels (x :: xs) h

/-- **A list that is always written** needs a level even where it is empty. -/
theorem depth_list_le {toJson : α → Json} {xs : List α} (hd : d.Fits toJson)
    (h : f.orElse name [] (list d) = .ok xs) :
    (Json.array (xs.map toJson)).depth ≤ max f.levels 1 := by
  rcases reads_of_orElse h with rfl | h
  · exact Nat.le_max_right _ _
  · exact Nat.le_trans (fits_list hd f.levels xs h) (Nat.le_max_left _ _)

end Fields

end Decode

/-! ## Literals and conditions -/

namespace Literal

mutual

/-- **A literal is written as what it was read from.** -/
theorem toJson_of_ofJson? : ∀ {j : Json} {l : Literal}, ofJson? j = some l → l.toJson = j
  | .null, l, h | .bool _, l, h | .number _, l, h | .string _, l, h => by
    cases h
    rfl
  | .array items, l, h => by
    rw [ofJson?] at h
    obtain ⟨ls, hls, rfl⟩ := Option.map_eq_some_iff.1 h
    rw [toJson, itemsToJson_of_itemsOfJson? hls]
  | .object _, l, h | .unreadable, l, h => by cases h

theorem itemsToJson_of_itemsOfJson? :
    ∀ {items : List Json} {ls : List Literal}, itemsOfJson? items = some ls → itemsToJson ls = items
  | [], ls, h => by
    cases h
    rfl
  | item :: items, ls, h => by
    rw [itemsOfJson?] at h
    split at h
    · next l rest hl hrest =>
      cases h
      rw [itemsToJson, toJson_of_ofJson? hl, itemsToJson_of_itemsOfJson? hrest]
    · cases h

end

/-- **What is read is what is written of it**, as it is and nothing else; the levels only bound its
depth. -/
theorem decode_eq_ok_iff {levels : Nat} {j : Json} {l : Literal} :
    decode levels j = .ok l ↔ j.depth ≤ levels ∧ l.toJson = j := by
  constructor
  · intro h
    unfold decode at h
    split at h
    · next hj =>
      cases hl : ofJson? j with
      | none =>
        rw [hl] at h
        cases h
      | some m =>
        rw [hl] at h
        cases h
        exact ⟨hj, toJson_of_ofJson? hl⟩
    · cases h
  · rintro ⟨hj, rfl⟩
    exact l.yields_toJson levels hj

theorem fits : Literal.decode.Fits toJson := by
  rintro levels l ⟨j, h⟩
  obtain ⟨hj, rfl⟩ := decode_eq_ok_iff.mp h
  exact hj

end Literal

namespace Condition

/-- The groups that a condition is made of. -/
theorem of_ofGroups_eq_ok {p : Predicate} {allGroup anyGroup : Option (List Condition)}
    {c : Condition} (h : ofGroups p allGroup anyGroup = .ok c) :
    c = leaf p ∨ (∃ cs ∈ allGroup, c = all p cs) ∨ ∃ cs ∈ anyGroup, c = any p cs := by
  unfold ofGroups at h
  split at h <;> cases h
  · exact .inl rfl
  · exact .inr (.inl ⟨_, rfl, rfl⟩)
  · exact .inr (.inr ⟨_, rfl, rfl⟩)
  · exact .inr (.inl ⟨_, rfl, rfl⟩)
  · exact .inr (.inr ⟨_, rfl, rfl⟩)

/-- **What the success of reading a condition says**: it takes a level, its literal is read within
the others, and its group, if it has one, is read as a group. -/
theorem of_decodeWith_eq_ok {readGroup : Json → Except DecodeError (List Condition)} {levels : Nat}
    {j : Json} {c : Condition} (h : decodeWith readGroup levels j = .ok c) :
    ∃ l, levels = l + 1 ∧ c.predicate.literal.toJson.depth ≤ l ∧
      (c = leaf c.predicate ∨ ∃ g, readGroup g = .ok c.group ∧
        (c = all c.predicate c.group ∨ c = any c.predicate c.group)) := by
  unfold decodeWith at h
  obtain ⟨f, hf, h⟩ := exists_of_bind_eq_ok h
  obtain ⟨column, -, h⟩ := exists_of_bind_eq_ok h
  obtain ⟨comparison, -, h⟩ := exists_of_bind_eq_ok h
  obtain ⟨literal, hliteral, h⟩ := exists_of_bind_eq_ok h
  obtain ⟨allGroup, hall, h⟩ := exists_of_bind_eq_ok h
  obtain ⟨anyGroup, hany, h⟩ := exists_of_bind_eq_ok h
  have hdepth : literal.toJson.depth ≤ f.levels := by
    rcases Fields.reads_of_orElse hliteral with rfl | hread
    · exact Nat.zero_le _
    · exact Literal.fits _ _ hread
  refine ⟨f.levels, levels_of_fields hf, ?_⟩
  rcases of_ofGroups_eq_ok h with rfl | ⟨cs, hcs, rfl⟩ | ⟨cs, hcs, rfl⟩
  · exact ⟨hdepth, .inl rfl⟩
  · obtain ⟨g, hg⟩ := Fields.reads_of_optional hall cs hcs
    exact ⟨hdepth, .inr ⟨g, hg, .inl rfl⟩⟩
  · obtain ⟨g, hg⟩ := Fields.reads_of_optional hany cs hcs
    exact ⟨hdepth, .inr ⟨g, hg, .inr rfl⟩⟩

theorem entriesDepth_predicateEntries (p : Predicate) :
    Json.entriesDepth (predicateEntries p) = p.literal.toJson.depth := by
  simp [predicateEntries, Json.entriesDepth, Json.depth]

/-- A condition nests as deep as its literal and its group say. -/
theorem depth_toJson_le {c : Condition} {n : Nat} (hp : c.predicate.literal.toJson.depth ≤ n + 1)
    (hg : ∀ d ∈ c.group, d.toJson.depth ≤ n) : c.toJson.depth ≤ n + 2 := by
  have hitems : Json.itemsDepth (c.group.map toJson) ≤ n := Json.itemsDepth_map_le hg
  cases c with
  | leaf p =>
    rw [toJson, Json.depth, entriesDepth_predicateEntries]
    exact Nat.succ_le_succ hp
  | all p group | any p group =>
    rw [toJson, groupToJson_eq_map, Json.depth, Json.entriesDepth_append,
      entriesDepth_predicateEntries]
    show max _ (max (Json.itemsDepth (group.map toJson) + 1) 0) + 1 ≤ _
    have hp : p.literal.toJson.depth ≤ n + 1 := hp
    have hitems : Json.itemsDepth (group.map toJson) ≤ n := hitems
    omega

theorem depth_le_of_decode : ∀ {levels : Nat} {j : Json} {c : Condition},
    decode levels j = .ok c → c.toJson.depth ≤ levels
  | 0, _, _, h => by cases h
  | 1, _, c, h => by
    obtain ⟨l, hl, hp, hc | ⟨g, hg, -⟩⟩ := of_decodeWith_eq_ok h
    · rw [hc, toJson, Json.depth, entriesDepth_predicateEntries]
      omega
    · cases hg
  | levels + 2, _, c, h => by
    obtain ⟨l, hl, hp, hc⟩ := of_decodeWith_eq_ok h
    refine depth_toJson_le (by omega) fun d hd => ?_
    rcases hc with hc | ⟨g, hg, -⟩
    · rw [hc] at hd
      cases hd
    · cases g with
      | array items =>
        obtain ⟨item, -, hitem⟩ := forall_mem_of_mapM_eq_ok hg d hd
        exact depth_le_of_decode hitem
      | _ => cases hg

/-- **Conditions fit**, groups and all. -/
theorem fits : decode.Fits toJson := fun _ _ ⟨_, h⟩ => depth_le_of_decode h

end Condition

/-! ## The parts of a query -/

theorem Column.fits : Column.decode.Fits toJson := by
  rintro levels c ⟨j, h⟩
  obtain ⟨f, hf, h⟩ := exists_of_bind_eq_ok h
  obtain ⟨name, -, h⟩ := exists_of_bind_eq_ok h
  obtain ⟨alias?, halias, h⟩ := exists_of_bind_eq_ok h
  obtain ⟨aggregation?, haggregation, h⟩ := exists_of_bind_eq_ok h
  obtain ⟨distinct?, hdistinct, h⟩ := exists_of_bind_eq_ok h
  cases h
  rw [levels_of_fields hf]
  exact Json.depth_object_le <| Json.entriesDepth_append_le (Json.entriesDepth_append_le
    (Json.entriesDepth_append_le (Nat.zero_le _)
      (Fields.entriesDepth_optional_le fits_string halias))
      (Fields.entriesDepth_optional_le (fits_choice _ Aggregation.name) haggregation))
      (Fields.entriesDepth_optional_le fits_bool hdistinct)

theorem Expression.fits : Expression.decode.Fits toJson := by
  rintro levels e ⟨j, h⟩
  obtain ⟨f, hf, h⟩ := exists_of_bind_eq_ok h
  obtain ⟨text, -, h⟩ := exists_of_bind_eq_ok h
  obtain ⟨alias?, halias, h⟩ := exists_of_bind_eq_ok h
  cases h
  rw [levels_of_fields hf]
  exact Json.depth_object_le <| Json.entriesDepth_append_le (Nat.zero_le _)
    (Fields.entriesDepth_optional_le fits_string halias)

/-- A table is read by its name. -/
theorem Table.recognized_of_reads {levels : Nat} {t : Table} (h : Table.decode.Reads levels t) :
    t.recognized = t := by
  obtain ⟨j, h⟩ := h
  unfold decode at h
  split at h
  · cases h
    unfold recognized
    rw [name_ofName]
  · next name =>
    cases hk : KnownTable.ofName? name with
    | none =>
      rw [hk] at h
      cases h
    | some k =>
      rw [hk] at h
      cases h
      cases k <;> rfl
  · cases h

/-- **What the success of reading a join says**: it takes a level, and its table is recognized. -/
theorem Join.of_reads {levels : Nat} {join : Join} (h : Join.decode.Reads levels join) :
    join.recognized = join ∧ 1 ≤ levels := by
  obtain ⟨j, h⟩ := h
  obtain ⟨f, hf, h⟩ := exists_of_bind_eq_ok h
  obtain ⟨table, htable, h⟩ := exists_of_bind_eq_ok h
  obtain ⟨kind, -, h⟩ := exists_of_bind_eq_ok h
  obtain ⟨on, -, h⟩ := exists_of_bind_eq_ok h
  cases h
  refine ⟨?_, ?_⟩
  · unfold recognized
    rw [Table.recognized_of_reads (Fields.reads_of_required htable)]
  · rw [levels_of_fields hf]
    exact Nat.le_add_left 1 _

theorem Join.fits : Join.decode.Fits toJson := fun _ _ h => (Join.of_reads h).2

theorem fits_strings : (list string).Fits stringsToJson := fits_list fits_string

theorem Grouping.fits : Grouping.decode.Fits toJson := by
  rintro levels g ⟨j, h⟩
  obtain ⟨f, hf, h⟩ := exists_of_bind_eq_ok h
  obtain ⟨columns, hcolumns, h⟩ := exists_of_bind_eq_ok h
  obtain ⟨having?, hhaving, h⟩ := exists_of_bind_eq_ok h
  cases h
  have hdepth := fits_strings _ _ (Fields.reads_of_required hcolumns)
  rw [levels_of_fields hf]
  rw [← Json.entriesDepth_singleton "columns"] at hdepth
  exact Json.depth_object_le <| Json.entriesDepth_append_le hdepth
    (Fields.entriesDepth_optional_le fits_string hhaving)

theorem RowOrder.fits : RowOrder.decode.Fits toJson := by
  rintro levels o ⟨j, h⟩
  obtain ⟨f, hf, h⟩ := exists_of_bind_eq_ok h
  obtain ⟨columns, hcolumns, h⟩ := exists_of_bind_eq_ok h
  obtain ⟨direction, -, h⟩ := exists_of_bind_eq_ok h
  cases h
  have hdepth := fits_strings _ _ (Fields.reads_of_required hcolumns)
  rw [levels_of_fields hf]
  refine Json.depth_object_le ?_
  rw [Json.entriesDepth]
  exact Nat.max_le.2 ⟨hdepth, Nat.zero_le _⟩

/-! ## Clauses and queries -/

/-- **What the success of reading clauses says**: their tables are recognized, and they are written
within the levels they were read within, or one level if that was none. -/
theorem Clauses.of_ofFields_eq_ok {f : Fields} {c : Clauses} (h : ofFields f = .ok c) :
    c.recognized = c ∧ Json.entriesDepth c.toEntries ≤ max f.levels 1 := by
  obtain ⟨columns, hcolumns, h⟩ := exists_of_bind_eq_ok h
  obtain ⟨expressions, hexpressions, h⟩ := exists_of_bind_eq_ok h
  obtain ⟨table, htable, h⟩ := exists_of_bind_eq_ok h
  obtain ⟨joins, hjoins, h⟩ := exists_of_bind_eq_ok h
  obtain ⟨conditions, hconditions, h⟩ := exists_of_bind_eq_ok h
  obtain ⟨grouping?, hgrouping, h⟩ := exists_of_bind_eq_ok h
  obtain ⟨ordering?, hordering, h⟩ := exists_of_bind_eq_ok h
  obtain ⟨limit?, hlimit, h⟩ := exists_of_bind_eq_ok h
  obtain ⟨offset?, hoffset, h⟩ := exists_of_bind_eq_ok h
  cases h
  constructor
  · have htable : table.recognized = table := by
      rcases Fields.reads_of_orElse htable with rfl | hread
      · rfl
      · exact Table.recognized_of_reads hread
    have hjoins : joins.map Join.recognized = joins := by
      rcases Fields.reads_of_orElse hjoins with rfl | hread
      · rfl
      · obtain ⟨l, -, hread⟩ := reads_of_list hread
        exact (List.map_congr_left fun join hj => (Join.of_reads (hread join hj)).1).trans
          (List.map_id joins)
    unfold recognized
    rw [htable, hjoins]
  · have hcolumns := Fields.depth_list_le Column.fits hcolumns
    have hexpressions := Fields.entriesDepth_list_le Expression.fits hexpressions
    have hjoins := Fields.entriesDepth_list_le Join.fits hjoins
    have hconditions := Fields.entriesDepth_list_le Condition.fits hconditions
    have hgrouping := Fields.entriesDepth_optional_le Grouping.fits hgrouping
    have hordering := Fields.entriesDepth_optional_le RowOrder.fits hordering
    have hlimit := Fields.entriesDepth_optional_le fits_uint64 hlimit
    have hoffset := Fields.entriesDepth_optional_le fits_uint64 hoffset
    unfold toEntries
    simp only [Json.entriesDepth_append, Json.entriesDepth_singleton, Condition.groupToJson_eq_map]
    have htable : table.toJson.depth = 0 := rfl
    omega

namespace Query

/-- What the success of reading a named query says: the query in it is read. -/
theorem of_decodeNamed_eq_ok {readQuery : Json → Except DecodeError Query} {levels : Nat} {j : Json}
    {name : String} {inner : Query} (h : decodeNamed readQuery levels j = .ok (name, inner)) :
    ∃ i, readQuery i = .ok inner := by
  obtain ⟨f, -, h⟩ := exists_of_bind_eq_ok h
  obtain ⟨_, -, h⟩ := exists_of_bind_eq_ok h
  obtain ⟨_, hinner, h⟩ := exists_of_bind_eq_ok h
  cases h
  exact Fields.reads_of_required hinner

/-- **What the success of reading a query says**: it takes a level, its clauses are read within the
others, and its named query, if it has one, is read as a named query. -/
theorem of_decodeWith_eq_ok {readNamed : Json → Except DecodeError (String × Query)} {levels : Nat}
    {j : Json} {q : Query} (h : decodeWith readNamed levels j = .ok q) :
    ∃ l c, levels = l + 1 ∧ c.recognized = c ∧ Json.entriesDepth c.toEntries ≤ max l 1 ∧
      (q = plain c ∨ ∃ name inner n, readNamed n = .ok (name, inner) ∧
        q = withNamed name inner c) := by
  obtain ⟨f, hf, h⟩ := exists_of_bind_eq_ok h
  obtain ⟨c, hc, h⟩ := exists_of_bind_eq_ok h
  obtain ⟨named?, hnamed, h⟩ := exists_of_bind_eq_ok h
  obtain ⟨hrecognized, hdepth⟩ := Clauses.of_ofFields_eq_ok hc
  refine ⟨f.levels, c, levels_of_fields hf, hrecognized, hdepth, ?_⟩
  rcases named? with _ | ⟨name, inner⟩
  · cases h
    exact .inl rfl
  · cases h
    obtain ⟨n, hn⟩ := Fields.reads_of_optional hnamed (name, inner) rfl
    exact .inr ⟨name, inner, n, hn, rfl⟩

theorem depth_toJson_plain (c : Clauses) :
    (plain c).toJson.depth = Json.entriesDepth c.toEntries + 1 := by
  rw [toJson, Json.depth]

theorem depth_toJson_withNamed (name : String) (inner : Query) (c : Clauses) :
    (withNamed name inner c).toJson.depth =
      max (Json.entriesDepth c.toEntries) (inner.toJson.depth + 1) + 1 := by
  rw [toJson, Json.depth, Json.entriesDepth_append, Json.entriesDepth_singleton, Json.depth]
  show max _ (max 0 (max inner.toJson.depth 0) + 1) + 1 = _
  rw [Nat.max_zero, Nat.zero_max]

/-- **What has been read of a query**: its tables are recognized, each query of the chain took its
levels, and the query is written within the levels it was read within, or within those that its
chain takes with the columns of the last. -/
theorem of_decode_eq_ok : ∀ {levels : Nat} {j : Json} {q : Query}, decode levels j = .ok q →
    q.recognized = q ∧ 2 * q.depth + 1 ≤ levels ∧ q.toJson.depth ≤ max levels (2 * q.depth + 2)
  | 0, _, _, h => by cases h
  | 1, _, q, h => by
    obtain ⟨l, c, hl, hc, hdepth, rfl | ⟨name, inner, n, hn, -⟩⟩ := of_decodeWith_eq_ok h
    · rw [recognized, hc, depth_toJson_plain, depth]
      exact ⟨rfl, by omega, by omega⟩
    · cases hn
  | levels + 2, _, q, h => by
    obtain ⟨l, c, hl, hc, hdepth, rfl | ⟨name, inner, n, hn, rfl⟩⟩ := of_decodeWith_eq_ok h
    · rw [recognized, hc, depth_toJson_plain, depth]
      exact ⟨rfl, by omega, by omega⟩
    · obtain ⟨i, hi⟩ := of_decodeNamed_eq_ok hn
      obtain ⟨hrecognized, hlevels, hinner⟩ := of_decode_eq_ok hi
      rw [recognized, hrecognized, hc, depth_toJson_withNamed, depth]
      exact ⟨rfl, by omega, by omega⟩

/-- What the success of reading a written named query says: the query in it is read. -/
theorem exists_of_decodeNamed_eq_ok {readQuery : Json → Except DecodeError Query} {levels : Nat}
    {name : String} {j : Json} {p : String × Query}
    (h : decodeNamed readQuery levels (.object [("alias", .string name), ("query", j)]) = .ok p) :
    ∃ q, readQuery j = .ok q := by
  obtain ⟨f, hf, h⟩ := exists_of_bind_eq_ok h
  obtain ⟨_, -, h⟩ := exists_of_bind_eq_ok h
  obtain ⟨q, hq, -⟩ := exists_of_bind_eq_ok h
  rw [levels_of_fields hf, fields_named] at hf
  have hf : ⟨f.levels, [("alias", .string name), ("query", j)]⟩ = f := Except.ok.inj hf
  refine ⟨q, ?_⟩
  rw [← hf] at hq
  exact hq

/-- **A written query is read only where there is a level for its columns**, and only if its named
query, if it has one, is read. -/
theorem of_decodeWith_entries_eq_ok {readNamed : Json → Except DecodeError (String × Query)}
    {c : Clauses} {named? : Option Json} {levels : Nat} {q : Query}
    (h : decodeWith readNamed levels (.object (c.toEntries ++ Json.entryOf? "cte_query" named?)) =
      .ok q) :
    2 ≤ levels ∧ ∀ n ∈ named?, n ≠ .null → ∃ p, readNamed n = .ok p := by
  obtain ⟨f, hf, h⟩ := exists_of_bind_eq_ok h
  obtain ⟨d, hd, h⟩ := exists_of_bind_eq_ok h
  obtain ⟨columns, hcolumns, -⟩ := exists_of_bind_eq_ok hd
  obtain ⟨_, hnamed, -⟩ := exists_of_bind_eq_ok h
  have hlevels := levels_of_fields hf
  rw [hlevels, fields_entries] at hf
  have hf : ⟨f.levels, c.toEntries ++ Json.entryOf? "cte_query" named?⟩ = f := Except.ok.inj hf
  have hwritten : f.written = c.toEntries ++ Json.entryOf? "cte_query" named? := by rw [← hf]
  constructor
  · have hread := Fields.eq_ok_of_orElse hcolumns
      (by rw [hwritten]; exact (c.writtenIn_toEntries named?).columns)
    obtain ⟨l, hl, -⟩ := reads_of_list ⟨_, hread⟩
    omega
  · rintro n rfl hn
    exact Fields.exists_of_optional hnamed (by rw [hwritten]; exact c.lookup_cte_query (some n)) hn

/-- **A written query is read only within the levels of its chain**, two for each query of it. -/
theorem le_of_decode_toJson : ∀ {levels : Nat} (q r : Query), decode levels q.toJson = .ok r →
    2 * q.depth + 2 ≤ levels
  | 0, _, _, h => by cases h
  | 1, plain c, _, h => by
    rw [toJson_plain] at h
    exact absurd (of_decodeWith_entries_eq_ok h).1 (by decide)
  | 1, withNamed name inner c, _, h => by
    rw [toJson_withNamed] at h
    exact absurd (of_decodeWith_entries_eq_ok h).1 (by decide)
  | levels + 2, plain c, _, _ => by
    rw [depth]
    omega
  | levels + 2, withNamed name inner c, r, h => by
    rw [toJson_withNamed] at h
    obtain ⟨-, hnamed⟩ := of_decodeWith_entries_eq_ok h
    obtain ⟨p, hp⟩ := hnamed _ rfl nofun
    obtain ⟨i, hi⟩ := exists_of_decodeNamed_eq_ok hp
    have := le_of_decode_toJson inner i hi
    rw [depth]
    omega

end Query

end ChartData
