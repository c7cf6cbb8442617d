import ChartData.Proofs.ReadBack
import ChartData.Proofs.Trees

/-!
# Literals and conditions read back

A literal that is written as a data value is read back as it was (`Literal.yields_toJson`), and so
is a condition (`Condition.yields_toJson`), groups of no conditions included: an empty group is
written as one, under the name of its kind, and so is told from no group at all.

A condition takes two levels more than the conditions of its group, one for its own entries and one
for the group. The decoder counts in the same steps, so an induction over conditions follows it.
-/

namespace ChartData

namespace Literal

/-- Literals are read back one by one where each is. -/
theorem itemsOfJson?_map_toJson {items : List Literal}
    (h : ∀ l ∈ items, ofJson? l.toJson = some l) :
    itemsOfJson? (items.map toJson) = some items := by
  induction items with
  | nil => rfl
  | cons l rest ih =>
    rw [List.map_cons, itemsOfJson?, h l List.mem_cons_self,
      ih fun m hm => h m (List.mem_cons_of_mem l hm)]

/-- **A literal is what its data value is read as.** -/
@[simp] theorem ofJson?_toJson (l : Literal) : ofJson? l.toJson = some l := by
  induction l with
  | null | boolean b | number n | string s => rfl
  | list items ih =>
    rw [toJson, itemsToJson_eq_map, ofJson?, itemsOfJson?_map_toJson ih]
    rfl

/-- **Literals are read back.** -/
theorem yields_toJson (l : Literal) : Literal.decode.Yields l.toJson l := by
  intro levels hl
  unfold decode
  rw [if_pos hl, ofJson?_toJson]
  rfl

end Literal

/-- The name of a comparison yields it. -/
theorem Comparison.yields_name (c : Comparison) : Comparison.decode.Yields (.string c.name) c :=
  Decode.yields_choice (Comparison.ofName?_name c)

namespace Condition

open Decode

/-- The entries of a predicate are fields of a condition. -/
theorem named_predicateEntries (p : Predicate) :
    Named ["column", "operator", "value"] (predicateEntries p) := List.Sublist.refl _

theorem lookup_predicateEntries (p : Predicate) (rest : List (String × Json)) :
    (predicateEntries p ++ rest).lookup "column" = some (.string p.column) ∧
      (predicateEntries p ++ rest).lookup "operator" = some (.string p.comparison.name) ∧
      (predicateEntries p ++ rest).lookup "value" = some p.literal.toJson ∧
      (predicateEntries p ++ rest).lookup "and_filter" = rest.lookup "and_filter" ∧
      (predicateEntries p ++ rest).lookup "or_filter" = rest.lookup "or_filter" := by
  unfold predicateEntries
  simp only [List.cons_append, List.nil_append, List.lookup_cons]
  simp

/-- **A condition is read back where its groups are**, the predicate at its head being read back in
any case. -/
theorem decodeWith_eq_ofGroups {p : Predicate} {rest : List (String × Json)} {levels : Nat}
    {readGroup : Json → Except DecodeError (List Condition)}
    {allGroup anyGroup : Option (List Condition)}
    (hn : Named ["and_filter", "or_filter"] rest)
    (hl : Json.entriesDepth (predicateEntries p ++ rest) ≤ levels)
    (hall : (Fields.mk levels rest).optional "and_filter" (fun _ => readGroup) = .ok allGroup)
    (hany : (Fields.mk levels rest).optional "or_filter" (fun _ => readGroup) = .ok anyGroup) :
    decodeWith readGroup (levels + 1) (.object (predicateEntries p ++ rest)) =
      ofGroups p allGroup anyGroup := by
  obtain ⟨hcolumn, hoperator, hvalue, hand, hor⟩ := lookup_predicateEntries p rest
  have hf : fields fieldNames (levels + 1) (.object (predicateEntries p ++ rest)) =
      .ok ⟨levels, predicateEntries p ++ rest⟩ :=
    fields_object ((named_predicateEntries p).append hn) (by decide)
  rw [← Fields.optional_congr hand] at hall
  rw [← Fields.optional_congr hor] at hany
  unfold decodeWith
  rw [bind_of_eq_ok hf, bind_of_eq_ok (Fields.required_eq_ok (yields_string _) hl hcolumn),
    bind_of_eq_ok (Fields.required_eq_ok p.comparison.yields_name hl hoperator),
    bind_of_eq_ok (Fields.orElse_eq_ok p.literal.yields_toJson hl hvalue),
    bind_of_eq_ok hall, bind_of_eq_ok hany]

/-- A group is read back where its conditions are, if it is where a group is looked for. -/
theorem optional_group {levels : Nat} {name : String} {group : List Condition}
    (h : ∀ c ∈ group, decode.Yields c.toJson c)
    (hl : Json.itemsDepth (group.map toJson) ≤ levels) :
    (Fields.mk (levels + 1) [(name, .array (group.map toJson))]).optional name (fun _ g =>
      match g with
      | .array items => items.mapM (decode levels)
      | _ => .error .shape) = .ok (some group) := by
  have hgroup : (group.map toJson).mapM (decode levels) = .ok (group.map id) :=
    mapM_map_of_eq_ok fun c hc =>
      h c hc levels (Nat.le_trans (Json.depth_le_itemsDepth (List.mem_map_of_mem hc)) hl)
  unfold Fields.optional Fields.orElse
  rw [List.lookup_cons_self]
  show ((group.map toJson).mapM (decode levels)).map some = _
  rw [hgroup, List.map_id]
  rfl

/-- **Conditions are read back**, each group as the kind of group it was. -/
theorem yields_toJson (c : Condition) : decode.Yields c.toJson c := by
  induction c with
  | leaf p =>
    intro levels hl
    rw [toJson, ← List.append_nil (predicateEntries p), Json.depth] at hl
    rw [toJson, ← List.append_nil (predicateEntries p)]
    -- The levels left inside decide how a group would be read, but there is none.
    rcases levels with _ | _ | levels
    · exact absurd hl (Nat.not_succ_le_zero _)
    · exact decodeWith_eq_ofGroups (.nil _) (by omega) rfl rfl
    · exact decodeWith_eq_ofGroups (.nil _) (by omega) rfl rfl
  | all p group ih =>
    intro levels hl
    rw [toJson, groupToJson_eq_map] at hl ⊢
    obtain ⟨levels, rfl, hitems, hentries⟩ := Json.exists_levels (by rw [Json.depth]) hl
    exact decodeWith_eq_ofGroups ((Named.single _ _).append (.nil ["or_filter"])) hentries
      (optional_group ih hitems) rfl
  | any p group ih =>
    intro levels hl
    rw [toJson, groupToJson_eq_map] at hl ⊢
    obtain ⟨levels, rfl, hitems, hentries⟩ := Json.exists_levels (by rw [Json.depth]) hl
    exact decodeWith_eq_ofGroups (Named.append (.nil ["and_filter"]) (.single _ _)) hentries rfl
      (optional_group ih hitems)

end Condition

end ChartData
