import ChartData.Proofs.ConditionData
import Mathlib.Data.List.Forall2
import Mathlib.Data.List.Nodup
import Mathlib.Data.Set.List

/-!
# Conditions in data from outside

Data that describe a condition need not be what the library writes. The fields stand in any order,
with other entries between them, or in an array without their names; a group may be absent, null or
an array, and the array may be empty; and both kinds of group may be there at once. Data in which
nothing else varies, at any depth, are `Json.IsConditionData`. Their nodes are the places where a
condition is described, each before those of its groups (`Json.conditionNodes`).

Such data are read unless some node has conditions in both groups, and what is read has one
condition for each node, in the same order, with the same column, comparison and literal, and of the
kind of group that the node has (`Condition.decode_of_isConditionData`). So no condition is lost on
the way, not even where one of two groups gives way to the other: it is empty then.

Reading goes from the innermost nodes outwards and ends at the first that has conditions in both
groups. So there are two ways in which a piece of it can end (`Condition.Outcome`), and each step
hands on the outcome of the steps before it (`Condition.Outcome.bind`). The proof is one induction
over the data, with a lemma for a list of conditions, one for a group and one for a node.
-/

namespace ChartData

/-! ## The fields of a structure -/

namespace Json

variable {names : List String} {name : String} {j field : Json}

/-- **What stands in a structure as the field of a name**, given the names of all its fields in
order: in an object the entry under the name, in an array the item at the place of the name. -/
def fieldOf? (names : List String) (name : String) : Json → Option Json
  | object entries => entries.lookup name
  | array items => (names.zip items).lookup name
  | _ => none

/-- **Whether data have the form of a structure**: that of an object with no field twice, or of an
array with no more items than there are fields. -/
def IsStructure (names : List String) : Json → Prop
  | object entries => ∀ name ∈ names, (entries.map Prod.fst).count name ≤ 1
  | array items => items.length ≤ names.length
  | _ => False

instance (names : List String) : DecidablePred (IsStructure names)
  | object entries =>
    inferInstanceAs (Decidable (∀ name ∈ names, (entries.map Prod.fst).count name ≤ 1))
  | array items => inferInstanceAs (Decidable (items.length ≤ names.length))
  | null | bool _ | number _ | string _ | unreadable => inferInstanceAs (Decidable False)

/-- A field nests less deeply than its structure. -/
theorem depth_lt_of_fieldOf? (h : j.fieldOf? names name = some field) : field.depth < j.depth := by
  cases j with
  | object entries => exact Nat.lt_succ_of_le (depth_le_entriesDepth h)
  | array items =>
    obtain ⟨before, after, heq, -⟩ := List.lookup_eq_some_iff.mp h
    have hmem : (name, field) ∈ names.zip items := by
      rw [heq]
      exact List.mem_append_right _ List.mem_cons_self
    exact Nat.lt_succ_of_le (depth_le_itemsDepth (List.of_mem_zip hmem).2)
  | _ => cases h

/-- Passing over entries under other names does not change what stands under a name. -/
theorem lookup_filter_contains (hname : name ∈ names) (entries : List (String × Json)) :
    (entries.filter (names.contains ·.1)).lookup name = entries.lookup name := by
  induction entries with
  | nil => rfl
  | cons entry entries ih =>
    obtain ⟨key, value⟩ := entry
    by_cases hkey : name = key
    · subst hkey
      have hcontains : names.contains name = true := List.contains_iff_mem.mpr hname
      rw [List.filter_cons, if_pos hcontains, List.lookup_cons_self, List.lookup_cons_self]
    · have hbeq : (name == key) = false := beq_false_of_ne hkey
      rw [List.filter_cons]
      split <;> simp only [List.lookup_cons, hbeq, ih]

/-- **A structure has the fields that stand in it**, each once. -/
theorem IsStructure.exists_fields (h : j.IsStructure names) (levels : Nat) :
    ∃ written, Decode.fields names (levels + 1) j = .ok ⟨levels, written⟩ ∧
      ∀ name ∈ names, written.lookup name = j.fieldOf? names name := by
  cases j with
  | object entries =>
    refine ⟨entries.filter (names.contains ·.1), ?_, fun name hname =>
      lookup_filter_contains hname entries⟩
    have hknown : (entries.filter (names.contains ·.1)).map Prod.fst =
        (entries.map Prod.fst).filter names.contains :=
      (List.filter_map (p := names.contains) (f := Prod.fst)).symm
    have hnodup : ((entries.filter (names.contains ·.1)).map Prod.fst).Nodup := by
      rw [hknown, List.nodup_iff_count_le_one]
      intro name
      by_cases hname : name ∈ names
      · rw [List.count_filter (List.contains_iff_mem.mpr hname)]
        exact h name hname
      · rw [List.count_eq_zero_of_not_mem]
        · exact Nat.zero_le 1
        · rw [List.mem_filter, List.contains_iff_mem]
          exact fun hmem => hname hmem.2
    exact if_pos hnodup
  | array items => exact ⟨names.zip items, if_pos h, fun _ _ => rfl⟩
  | _ => cases h

/-! ## Data without an object -/

/-- **Data without an object** anywhere inside. -/
inductive IsObjectFree : Json → Prop
  | null : IsObjectFree null
  | bool (b : Bool) : IsObjectFree (bool b)
  | number (n : JsonNumber) : IsObjectFree (number n)
  | string (s : String) : IsObjectFree (string s)
  | array {items : List Json} (h : ∀ item ∈ items, item.IsObjectFree) : IsObjectFree (array items)

/-- **Data without an object are those of a literal.** -/
theorem IsObjectFree.exists_literal (h : j.IsObjectFree) : ∃ l : Literal, l.toJson = j := by
  induction h with
  | null => exact ⟨.null, rfl⟩
  | bool b => exact ⟨.boolean b, rfl⟩
  | number n => exact ⟨.number n, rfl⟩
  | string s => exact ⟨.string s, rfl⟩
  | @array items _ ih =>
    have hrange : items ∈ Set.range (List.map Literal.toJson) := by
      rw [Set.range_list_map]
      exact ih
    obtain ⟨ls, rfl⟩ := hrange
    exact ⟨.list ls, by rw [Literal.toJson, Literal.itemsToJson_eq_map]⟩

end Json

/-! ## Nodes -/

/-- **The data that name a comparison**: its name, or an object with that name alone and null under
it. -/
def Comparison.IsNamedBy (c : Comparison) (j : Json) : Prop :=
  j = .string c.name ∨ j = .object [(c.name, .null)]

/-- **A comparison is read from what names it.** -/
theorem Comparison.IsNamedBy.decode_eq_ok {c : Comparison} {j : Json} {levels : Nat}
    (h : c.IsNamedBy j) (hl : j.depth ≤ levels) : Comparison.decode levels j = .ok c := by
  rcases h with rfl | rfl
  · exact c.yields_name levels hl
  · cases levels with
    | zero => exact absurd hl (Nat.not_succ_le_zero _)
    | succ levels =>
      show Decode.wanted (ofName? c.name) = .ok c
      rw [ofName?_name]
      rfl

/-- The name of the field for a group of a kind. -/
def Quantifier.fieldName : Quantifier → String
  | .all => "and_filter"
  | .any => "or_filter"

/-- **The kind of group of a condition**, if it has one. -/
def Condition.kind? : Condition → Option Quantifier
  | .leaf _ => none
  | .all _ _ => some .all
  | .any _ _ => some .any

/-- **Which of two groups counts**, either of which may be absent or empty. A group that is not
empty comes before one that is, and an all-group before an any-group. -/
def countingKind? {α : Type} (allGroup anyGroup : Option (List α)) : Option Quantifier :=
  if allGroup.getD [] ≠ [] then some .all
  else if anyGroup.getD [] ≠ [] then some .any
  else if allGroup.isSome then some .all
  else if anyGroup.isSome then some .any
  else none

/-- Which group counts is a matter of which groups are there and have conditions. -/
theorem countingKind?_congr {α β : Type} {R : α → β → Prop} {a b : Option (List α)}
    {a' b' : Option (List β)} (ha : Option.Rel (List.Forall₂ R) a a')
    (hb : Option.Rel (List.Forall₂ R) b b') : countingKind? a b = countingKind? a' b' := by
  rcases ha with ⟨_ | _⟩ | _ <;> rcases hb with ⟨_ | _⟩ | _ <;> rfl

/-- What is read as a group, item by item, has the items; an absent group has none. -/
theorem forall₂_getD {α β : Type} {R : α → β → Prop} {a : Option (List α)} {a' : Option (List β)}
    (h : Option.Rel (List.Forall₂ R) a a') : List.Forall₂ R (a.getD []) (a'.getD []) := by
  cases h with
  | some h => exact h
  | none => exact .nil

theorem getD_eq_nil_iff {α β : Type} {R : α → β → Prop} {a : Option (List α)}
    {a' : Option (List β)} (h : Option.Rel (List.Forall₂ R) a a') :
    a.getD [] = [] ↔ a'.getD [] = [] := by
  rw [← List.length_eq_zero_iff, ← List.length_eq_zero_iff, (forall₂_getD h).length_eq]

namespace Json

variable {j item : Json} {q : Quantifier}

/-- A field of data that describe a condition. -/
def conditionField? (name : String) (j : Json) : Option Json :=
  j.fieldOf? Condition.fieldNames name

/-- **The group of a kind in data that describe a condition**: the items of the array in its field.
A field that is absent or null is no group. -/
def conditionGroup? (q : Quantifier) (j : Json) : Option (List Json) :=
  match j.conditionField? q.fieldName with
  | some (.array items) => some items
  | _ => none

/-- The data of the conditions in the groups, those of the all-group first. -/
def conditionMembers (j : Json) : List Json :=
  (j.conditionGroup? .all).getD [] ++ (j.conditionGroup? .any).getD []

/-- **Whether data describe a condition with conditions in both groups.** -/
def HasMixedGroups (j : Json) : Prop :=
  (j.conditionGroup? .all).getD [] ≠ [] ∧ (j.conditionGroup? .any).getD [] ≠ []

instance : DecidablePred HasMixedGroups := fun _ => inferInstanceAs (Decidable (_ ∧ _))

/-- The kind of the group that counts. -/
def conditionKind? (j : Json) : Option Quantifier :=
  countingKind? (j.conditionGroup? .all) (j.conditionGroup? .any)

theorem conditionGroup?_eq_some_iff {items : List Json} :
    j.conditionGroup? q = some items ↔ j.conditionField? q.fieldName = some (.array items) := by
  unfold conditionGroup?
  constructor
  · intro h
    split at h
    · next hfield =>
      cases h
      exact hfield
    · cases h
  · intro h
    rw [h]

/-- A condition of a group nests less deeply than the condition with the group. -/
theorem depth_lt_of_mem_conditionGroup? (h : item ∈ (j.conditionGroup? q).getD []) :
    item.depth < j.depth := by
  cases hgroup : j.conditionGroup? q with
  | none =>
    rw [hgroup] at h
    cases h
  | some items =>
    rw [hgroup] at h
    have harray := depth_lt_of_fieldOf? (conditionGroup?_eq_some_iff.mp hgroup)
    have hitem : item.depth ≤ itemsDepth items := depth_le_itemsDepth h
    rw [depth] at harray
    omega

/-- **The nodes of data that describe a condition**: the data themselves and the nodes of the
conditions in their groups. -/
def conditionNodes (j : Json) : List Json :=
  j :: j.conditionMembers.attach.flatMap fun member => member.1.conditionNodes
termination_by j.depth
decreasing_by
  exact (List.mem_append.mp member.2).elim depth_lt_of_mem_conditionGroup?
    depth_lt_of_mem_conditionGroup?

/-- The nodes of data, without a proof that the members are members. -/
theorem conditionNodes_eq (j : Json) :
    j.conditionNodes = j :: j.conditionMembers.flatMap conditionNodes := by
  rw [conditionNodes]
  conv => rhs; rw [← List.attach_map_subtype_val j.conditionMembers, List.flatMap_map]

/-- The nodes of members are nodes. -/
theorem flatMap_conditionNodes_subset {items : List Json} (h : items ⊆ j.conditionMembers) :
    items.flatMap conditionNodes ⊆ j.conditionNodes := by
  intro n hn
  obtain ⟨item, hitem, hn⟩ := List.mem_flatMap.mp hn
  rw [conditionNodes_eq]
  exact List.mem_cons_of_mem j (List.mem_flatMap.mpr ⟨item, h hitem, hn⟩)

/-- **What a node has to have**: a column, a comparison, a literal or none, and in the fields of the
groups arrays or null or nothing. -/
structure IsConditionNode (j : Json) : Prop where
  /-- The node is written as a structure. -/
  form : j.IsStructure Condition.fieldNames
  /-- The column is a string. -/
  column : ∃ s, j.conditionField? "column" = some (.string s)
  /-- The comparison is one that is known. -/
  comparison : ∃ c : Comparison, ∃ o, j.conditionField? "operator" = some o ∧ c.IsNamedBy o
  /-- There is no object in what the column is compared with. -/
  literal : ∀ v, j.conditionField? "value" = some v → v.IsObjectFree
  /-- A group is an array. -/
  group : ∀ (q : Quantifier) (g : Json), j.conditionField? q.fieldName = some g →
    g = .null ∨ ∃ items, g = .array items

/-- **Data that describe a condition**, at any depth. -/
inductive IsConditionData : Json → Prop
  | node {j : Json} (h : j.IsConditionNode)
      (members : ∀ item ∈ j.conditionMembers, item.IsConditionData) : IsConditionData j

end Json

/-- **Whether a predicate is what a node describes.** -/
structure Predicate.IsWrittenIn (p : Predicate) (n : Json) : Prop where
  /-- The column is the one in the data. -/
  column : n.conditionField? "column" = some (.string p.column)
  /-- The comparison is the one in the data. -/
  comparison : ∃ o, n.conditionField? "operator" = some o ∧ p.comparison.IsNamedBy o
  /-- The literal is the one in the data, and null where there is none. -/
  literal : p.literal.toJson = (n.conditionField? "value").getD .null

namespace Condition

/-- **Whether a condition is what a node describes**, with as many conditions in its group. -/
structure IsWrittenIn (c : Condition) (n : Json) : Prop where
  /-- The predicate is the one in the data. -/
  predicate : c.predicate.IsWrittenIn n
  /-- The kind of group is the one that counts. -/
  kind : c.kind? = n.conditionKind?
  /-- No condition of a group is left out or added. -/
  size : c.group.length = n.conditionMembers.length

/-- **Whether a condition is what data describe**, node by node. -/
def Matches (c : Condition) (j : Json) : Prop :=
  List.Forall₂ IsWrittenIn c.nodes j.conditionNodes

/-! ## Outcomes -/

/-- **What reading data with given nodes can come to**: something good, where no node has mixed
groups, or the refusal of a node that has, naming its column. -/
inductive Outcome {α : Type} (nodes : List Json) (good : α → Prop) : Except DecodeError α → Prop
  | read {a : α} (ha : good a) (hn : ∀ n ∈ nodes, ¬n.HasMixedGroups) : Outcome nodes good (.ok a)
  | refused {n : Json} {column : String} (hn : n ∈ nodes) (hmixed : n.HasMixedGroups)
      (hcolumn : n.conditionField? "column" = some (.string column)) :
      Outcome nodes good (.error (.refused (.mixedGroups column)))

namespace Outcome

variable {α β : Type} {nodes nodes' : List Json} {good : α → Prop} {good' : β → Prop}

/-- **One step after another**: what the first one refuses is refused, and where it is good the
second one goes on. -/
theorem bind {x : Except DecodeError α} {f : α → Except DecodeError β} (h : Outcome nodes good x)
    (hsub : nodes ⊆ nodes')
    (hf : ∀ a, good a → (∀ n ∈ nodes, ¬n.HasMixedGroups) → Outcome nodes' good' (f a)) :
    Outcome nodes' good' (x >>= f) := by
  cases h with
  | read ha hn => exact hf _ ha hn
  | refused hn hmixed hcolumn => exact .refused (hsub hn) hmixed hcolumn

/-- What is made of something good is good. -/
theorem map {x : Except DecodeError α} {f : α → β} (h : Outcome nodes good x)
    (hf : ∀ a, good a → good' (f a)) : Outcome nodes good' (x.map f) := by
  cases h with
  | read ha hn => exact .read (hf _ ha) hn
  | refused hn hmixed hcolumn => exact .refused hn hmixed hcolumn

/-- **The outcome of a list** is good if those of its items are, and otherwise the refusal of the
first item that is refused. -/
theorem mapM {f : Json → Except DecodeError Condition} {items : List Json}
    (h : ∀ item ∈ items, Outcome item.conditionNodes (Matches · item) (f item)) :
    Outcome (items.flatMap Json.conditionNodes)
      (fun cs => List.Forall₂ Matches cs items) (items.mapM f) := by
  induction items with
  | nil => exact .read .nil nofun
  | cons item items ih =>
    rw [List.mapM_cons, List.flatMap_cons]
    refine (h item List.mem_cons_self).bind (List.subset_append_left _ _) fun c hc hitem => ?_
    refine (ih fun other hother => h other (List.mem_cons_of_mem item hother)).bind
      (List.subset_append_right _ _) fun cs hcs hitems => ?_
    exact .read (.cons hc hcs) fun n hn => (List.mem_append.mp hn).elim (hitem n) (hitems n)

end Outcome

open Decode

variable {p : Predicate} {j : Json} {q : Quantifier} {levels : Nat}
  {allGroup anyGroup : Option (List Condition)}

/-! ## The predicate of a node -/

/-- **A condition takes a level and its group another.** -/
theorem decode_succ (levels : Nat) (j : Json) :
    decode (levels + 1) j = decodeWith (list decode levels) (levels + 1) j := by
  cases levels with
  | zero => rfl
  | succ levels =>
    refine congrArg (fun group => decodeWith group (levels + 2) j) (funext fun g => ?_)
    cases g <;> rfl

/-- **A literal is read from the field for it**, and is null where the field is absent. -/
theorem exists_orElse_eq_ok {f : Fields} {value? : Option Json}
    (hvalue : f.written.lookup "value" = value?) (hfree : ∀ v ∈ value?, v.IsObjectFree)
    (hdepth : ∀ v ∈ value?, v.depth ≤ f.levels) :
    ∃ l : Literal, f.orElse "value" .null Literal.decode = .ok l ∧
      l.toJson = value?.getD .null := by
  unfold Fields.orElse
  rw [hvalue]
  cases value? with
  | none => exact ⟨.null, rfl, rfl⟩
  | some v =>
    obtain ⟨l, rfl⟩ := (hfree v rfl).exists_literal
    exact ⟨l, l.yields_toJson _ (hdepth _ rfl), rfl⟩

/-- **What is left to read of a node** when its fields are told apart and its predicate is read: the
two groups. -/
theorem exists_decode_eq (h : j.IsConditionNode) (hl : j.depth ≤ levels + 1) :
    ∃ (written : List (String × Json)) (p : Predicate),
      (∀ name ∈ fieldNames, written.lookup name = j.conditionField? name) ∧ p.IsWrittenIn j ∧
      decode (levels + 1) j = (do
        let allGroup ← (Fields.mk levels written).optional "and_filter" fun _ => list decode levels
        let anyGroup ← (Fields.mk levels written).optional "or_filter" fun _ => list decode levels
        ofGroups p allGroup anyGroup) := by
  obtain ⟨written, hfields, hwritten⟩ := h.form.exists_fields levels
  have hdepth {name : String} {field : Json} (hfield : j.conditionField? name = some field) :
      field.depth ≤ levels := by
    have := Json.depth_lt_of_fieldOf? hfield
    omega
  obtain ⟨column, hcolumn⟩ := h.column
  obtain ⟨comparison, o, ho, hnamed⟩ := h.comparison
  obtain ⟨literal, hliteral, htoJson⟩ := exists_orElse_eq_ok (f := ⟨levels, written⟩)
    (hwritten "value" (by decide)) h.literal fun v hv => hdepth hv
  refine ⟨written, ⟨column, comparison, literal⟩, hwritten, ⟨hcolumn, ⟨o, ho, hnamed⟩, htoJson⟩, ?_⟩
  have hreadColumn : (Fields.mk levels written).required "column" string = .ok column := by
    rw [Fields.required_of_lookup ((hwritten "column" (by decide)).trans hcolumn)]
    rfl
  have hreadComparison :
      (Fields.mk levels written).required "operator" Comparison.decode = .ok comparison := by
    rw [Fields.required_of_lookup ((hwritten "operator" (by decide)).trans ho)]
    exact hnamed.decode_eq_ok (hdepth ho)
  rw [decode_succ]
  unfold decodeWith
  rw [bind_of_eq_ok hfields, bind_of_eq_ok hreadColumn, bind_of_eq_ok hreadComparison,
    bind_of_eq_ok hliteral]

/-! ## The groups of a node -/

/-- **The outcome of a group** is that of its items. -/
theorem outcome_group {f : Fields} (h : j.IsConditionNode)
    (hwritten : f.written.lookup q.fieldName = j.conditionField? q.fieldName)
    (hl : j.depth ≤ f.levels + 1)
    (hitems : ∀ item ∈ (j.conditionGroup? q).getD [], ∀ levels, item.depth ≤ levels →
      Outcome item.conditionNodes (Matches · item) (decode levels item)) :
    Outcome (((j.conditionGroup? q).getD []).flatMap Json.conditionNodes)
      (fun group? => Option.Rel (List.Forall₂ Matches) group? (j.conditionGroup? q))
      (f.optional q.fieldName fun _ => list decode f.levels) := by
  cases hgroup : j.conditionGroup? q with
  | none =>
    have hread : f.optional q.fieldName (fun _ => list decode f.levels) = .ok none := by
      unfold Fields.optional Fields.orElse
      rw [hwritten]
      cases hfield : j.conditionField? q.fieldName with
      | none => rfl
      | some g =>
        rcases h.group q g hfield with rfl | ⟨items, rfl⟩
        · rfl
        · rw [Json.conditionGroup?_eq_some_iff.mpr hfield] at hgroup
          cases hgroup
    rw [hread]
    exact .read .none nofun
  | some items =>
    rw [hgroup] at hitems
    have hfield := Json.conditionGroup?_eq_some_iff.mp hgroup
    have harray := Json.depth_lt_of_fieldOf? hfield
    rw [Json.depth] at harray
    obtain ⟨levels, hlevels⟩ : ∃ l, f.levels = l + 1 := ⟨f.levels - 1, by omega⟩
    have hlist : Outcome (items.flatMap Json.conditionNodes)
        (fun cs => List.Forall₂ Matches cs items) (items.mapM (decode levels)) := by
      refine .mapM fun item hitem => hitems item hitem levels ?_
      have := Json.depth_le_itemsDepth hitem
      omega
    unfold Fields.optional Fields.orElse
    rw [hwritten, hfield, hlevels]
    exact hlist.map fun cs hcs => .some hcs

/-- **All that a predicate and two groups can amount to**: a refusal if both groups have conditions,
and otherwise a condition with all of them and of the kind of the group that counts. -/
theorem ofGroups_cases (p : Predicate) (allGroup anyGroup : Option (List Condition)) :
    ((allGroup.getD [] ≠ [] ∧ anyGroup.getD [] ≠ []) ∧
      ofGroups p allGroup anyGroup = .error (.refused (.mixedGroups p.column))) ∨
    (¬(allGroup.getD [] ≠ [] ∧ anyGroup.getD [] ≠ []) ∧
      ∃ c, ofGroups p allGroup anyGroup = .ok c ∧ c.predicate = p ∧
        c.kind? = countingKind? allGroup anyGroup ∧
        c.group = allGroup.getD [] ++ anyGroup.getD []) := by
  rcases allGroup with _ | _ | ⟨c, cs⟩ <;> rcases anyGroup with _ | _ | ⟨d, ds⟩ <;>
    simp [ofGroups, countingKind?, predicate, kind?, group]

/-- **The outcome of a node** whose groups are read. -/
theorem outcome_ofGroups (hp : p.IsWrittenIn j)
    (hall : Option.Rel (List.Forall₂ Matches) allGroup (j.conditionGroup? .all))
    (hany : Option.Rel (List.Forall₂ Matches) anyGroup (j.conditionGroup? .any))
    (hmembers : ∀ n ∈ j.conditionMembers.flatMap Json.conditionNodes, ¬n.HasMixedGroups) :
    Outcome j.conditionNodes (Matches · j) (ofGroups p allGroup anyGroup) := by
  have hmixed : (allGroup.getD [] ≠ [] ∧ anyGroup.getD [] ≠ []) ↔ j.HasMixedGroups :=
    and_congr (not_congr (getD_eq_nil_iff hall)) (not_congr (getD_eq_nil_iff hany))
  rcases ofGroups_cases p allGroup anyGroup with
    ⟨hboth, herror⟩ | ⟨hnot, c, hok, rfl, hkind, hgroup⟩
  · rw [herror, Json.conditionNodes_eq]
    exact .refused List.mem_cons_self (hmixed.mp hboth) hp.column
  · have hgroups : List.Forall₂ Matches c.group j.conditionMembers := by
      rw [hgroup]
      exact List.rel_append (forall₂_getD hall) (forall₂_getD hany)
    rw [hok]
    refine .read ?_ fun n hn => ?_
    · unfold Matches
      rw [nodes_eq, Json.conditionNodes_eq]
      exact .cons ⟨hp, hkind.trans (countingKind?_congr hall hany), hgroups.length_eq⟩
        (List.rel_flatMap hgroups fun _ _ h => h)
    · rw [Json.conditionNodes_eq] at hn
      rcases List.mem_cons.mp hn with rfl | hn
      · exact mt hmixed.mpr hnot
      · exact hmembers n hn

/-! ## All nodes -/

/-- **The outcome of data that describe a condition**, with as many levels as they nest. -/
theorem outcome_decode (h : j.IsConditionData) :
    ∀ levels, j.depth ≤ levels → Outcome j.conditionNodes (Matches · j) (decode levels j) := by
  induction h with
  | @node j hnode _ ih =>
    intro levels hl
    obtain ⟨levels, rfl⟩ : ∃ l, levels = l + 1 := by
      obtain ⟨s, hs⟩ := hnode.column
      have := Json.depth_lt_of_fieldOf? hs
      exact ⟨levels - 1, by omega⟩
    obtain ⟨written, p, hwritten, hp, hdecode⟩ := exists_decode_eq hnode hl
    have hgroup (q : Quantifier) (hq : q.fieldName ∈ fieldNames)
        (hsub : (j.conditionGroup? q).getD [] ⊆ j.conditionMembers) :=
      outcome_group (f := ⟨levels, written⟩) hnode (hwritten q.fieldName hq) hl
        fun item hitem => ih item (hsub hitem)
    have hall : (j.conditionGroup? .all).getD [] ⊆ j.conditionMembers :=
      List.subset_append_left _ _
    have hany : (j.conditionGroup? .any).getD [] ⊆ j.conditionMembers :=
      List.subset_append_right _ _
    rw [hdecode]
    refine (hgroup .all (by decide) hall).bind (Json.flatMap_conditionNodes_subset hall)
      fun allGroup hallGroup hallNodes => ?_
    refine (hgroup .any (by decide) hany).bind (Json.flatMap_conditionNodes_subset hany)
      fun anyGroup hanyGroup hanyNodes => ?_
    refine outcome_ofGroups hp hallGroup hanyGroup fun n hn => ?_
    unfold Json.conditionMembers at hn
    rw [List.flatMap_append] at hn
    exact (List.mem_append.mp hn).elim (hallNodes n) (hanyNodes n)

/-- **Reading conditions neither loses nor invents any.** Data that describe a condition, nested to
any depth that the reader may enter, are read exactly where no node has conditions in both groups.
Where some node has, they are refused, and the refusal names the column of such a node. What is read
has one condition for each node, in the same order, with the predicate of the node and with the kind
of its group: the one that has conditions, or else the all-group if it is there, or else the
any-group, or none. -/
theorem decode_of_isConditionData (h : j.IsConditionData) (hl : j.depth ≤ levels) :
    ((∃ c, decode levels j = .ok c) ↔ ∀ n ∈ j.conditionNodes, ¬n.HasMixedGroups) ∧
    (∀ e, decode levels j = .error e →
      ∃ n ∈ j.conditionNodes, n.HasMixedGroups ∧
        ∃ column, n.conditionField? "column" = some (.string column) ∧
          e = .refused (.mixedGroups column)) ∧
    ∀ c, decode levels j = .ok c → List.Forall₂ IsWrittenIn c.nodes j.conditionNodes := by
  have houtcome := outcome_decode h levels hl
  generalize decode levels j = result at houtcome
  cases houtcome with
  | @read c hc hn =>
    exact ⟨⟨fun _ => hn, fun _ => ⟨c, rfl⟩⟩, nofun, fun _ hok => Except.ok.inj hok ▸ hc⟩
  | @refused n column hn hmixed hcolumn =>
    refine ⟨⟨nofun, fun hall => absurd hmixed (hall n hn)⟩, fun e herror => ?_, nofun⟩
    exact ⟨n, hn, hmixed, column, hcolumn, (Except.error.inj herror).symm⟩

/-- A node with conditions in its any-group and none in its all-group, one with two empty groups,
and one that is written as an array, its comparison as an object and its literal not at all; and a
node with conditions in both groups. -/
theorem decode_of_isConditionData_in_all_forms :
    let last : Json := .array [.string "c", .object [("is null", .null)]]
    let middle : Json := .object [("or_filter", .array []), ("value", .array [.bool true]),
      ("operator", .string "not in"), ("and_filter", .array []), ("column", .string "b")]
    let first : Json := .object [("and_filter", .array []), ("note", .object [("column", .null)]),
      ("column", .string "a"), ("or_filter", .array [middle, last]), ("operator", .string "=")]
    let mixed : Json := .object [("column", .string "m"), ("operator", .string "="),
      ("and_filter", .array [first]), ("or_filter", .array [last])]
    first.IsConditionData ∧ mixed.IsConditionData ∧
      (∃ c, decode.ofJson first = .ok c ∧
        List.Forall₂ IsWrittenIn c.nodes [first, middle, last]) ∧
      first.conditionKind? = some .any ∧ middle.conditionKind? = some .all ∧
      last.conditionKind? = none ∧
      decode.ofJson mixed = .error (.refused (.mixedGroups "m")) ∧
      ∃ n ∈ mixed.conditionNodes, n.HasMixedGroups ∧
        n.conditionField? "column" = some (.string "m") := by
  intro last middle first mixed
  have hlast : last.IsConditionData := by
    refine .node ⟨by decide, ⟨_, rfl⟩, ⟨.isNull, _, rfl, .inr rfl⟩, ?_, ?_⟩ ?_
    · rintro v ⟨⟩
    · rintro (_ | _) g ⟨⟩
    · exact nofun
  have hmiddle : middle.IsConditionData := by
    refine .node ⟨by decide, ⟨_, rfl⟩, ⟨.notIn, _, rfl, .inl rfl⟩, ?_, ?_⟩ ?_
    · rintro v ⟨⟩
      exact .array (by simpa using .bool true)
    · rintro (_ | _) g ⟨⟩ <;> exact .inr ⟨_, rfl⟩
    · exact nofun
  have hfirst : first.IsConditionData := by
    refine .node ⟨by decide, ⟨_, rfl⟩, ⟨.equal, _, rfl, .inl rfl⟩, ?_, ?_⟩ ?_
    · rintro v ⟨⟩
    · rintro (_ | _) g ⟨⟩ <;> exact .inr ⟨_, rfl⟩
    · show ∀ item ∈ [middle, last], item.IsConditionData
      simpa using ⟨hmiddle, hlast⟩
  have hmixed : mixed.IsConditionData := by
    refine .node ⟨by decide, ⟨_, rfl⟩, ⟨.equal, _, rfl, .inl rfl⟩, ?_, ?_⟩ ?_
    · rintro v ⟨⟩
    · rintro (_ | _) g ⟨⟩ <;> exact .inr ⟨_, rfl⟩
    · show ∀ item ∈ [first, last], item.IsConditionData
      simpa using ⟨hfirst, hlast⟩
  have hnodes : first.conditionNodes = [first, middle, last] := by
    have hmiddleNodes : middle.conditionNodes = [middle] := Json.conditionNodes_eq middle
    have hlastNodes : last.conditionNodes = [last] := Json.conditionNodes_eq last
    rw [Json.conditionNodes_eq]
    show first :: (middle.conditionNodes ++ (last.conditionNodes ++ [])) = _
    rw [hmiddleNodes, hlastNodes]
    rfl
  obtain ⟨hread, -, hmatches⟩ := decode_of_isConditionData hfirst (Nat.le_refl _)
  obtain ⟨-, hrefused, -⟩ := decode_of_isConditionData hmixed (Nat.le_refl _)
  rw [hnodes] at hread hmatches
  obtain ⟨c, hc⟩ := hread.mpr (by decide)
  have herror : decode.ofJson mixed = .error (.refused (.mixedGroups "m")) := rfl
  obtain ⟨n, hn, hboth, column, hcolumn, hrefusal⟩ := hrefused _ herror
  cases hrefusal
  exact ⟨hfirst, hmixed, ⟨c, hc, hmatches c hc⟩, rfl, rfl, rfl, herror, n, hn, hboth, hcolumn⟩

end Condition

end ChartData
