import ChartData.Proofs.DataText
import ChartData.Proofs.Trees
import ChartData.Query.Check
import ChartData.Query.Data
import Mathlib.Data.List.Basic

/-!
# Zeros with a sign

Two floating-point numbers that are equal are the same, unless both are zero and one has a sign.
That carries over to everything numbers are part of: two values, two literals or two conditions are
equal exactly if they become the same when the sign is taken off every zero (`Json.equal_iff`,
`Literal.equal_iff`, `Condition.equal_iff`).

So whether something shows the sign of a zero is the question what it makes of a condition with the
signs taken off. Written as data, a condition shows no more of its zeros than the data do
(`Condition.toJson_unsignZeros`), and neither does a statement (`Condition.pieces_unsignZeros`). The
objections to a condition do not show them at all (`Condition.objections_unsignZeros`), and nor does
the text of a statement (`Statement.text_unsignZeros`).
-/

namespace ChartData

/-! ## Lists compared item by item

A comparison of values that contain lists comes with a companion on lists. The companions are all
the usual one (`eq_isEqv_of_rec`).
-/

theorem eq_isEqv_of_rec {α : Type} {r : α → α → Bool} {f : List α → List α → Bool}
    (nil_nil : f [] [] = true) (nil_cons : ∀ b bs, f [] (b :: bs) = false)
    (cons_nil : ∀ a as, f (a :: as) [] = false)
    (cons_cons : ∀ a as b bs, f (a :: as) (b :: bs) = (r a b && f as bs)) (as bs : List α) :
    f as bs = as.isEqv bs r := by
  induction as generalizing bs with
  | nil => cases bs with
    | nil => exact nil_nil
    | cons b bs => exact nil_cons b bs
  | cons a as ih => cases bs with
    | nil => exact cons_nil a as
    | cons b bs => rw [cons_cons, ih, List.isEqv_cons_cons]

/-- **Lists are equal item by item if their normal forms are the same**, given that this is so of
their items. -/
theorem isEqv_iff_map_eq {α β : Type} {r : α → α → Bool} {f : α → β} {as : List α}
    (h : ∀ a ∈ as, ∀ b, r a b = true ↔ f a = f b) (bs : List α) :
    as.isEqv bs r = true ↔ as.map f = bs.map f := by
  induction as generalizing bs with
  | nil => cases bs <;> simp
  | cons a as ih =>
    cases bs with
    | nil => simp
    | cons b bs =>
      rw [List.isEqv_cons_cons, Bool.and_eq_true, h a List.mem_cons_self b,
        ih (fun x hx => h x (List.mem_cons_of_mem a hx)) bs, List.map_cons, List.map_cons,
        List.cons.injEq]

/-- Lists of the same length whose items are equal in pairs are equal item by item. -/
theorem isEqv_eq_length_and_zip {α : Type} (r : α → α → Bool) (as bs : List α) :
    as.isEqv bs r = (as.length == bs.length && (as.zip bs).all fun x => r x.1 x.2) := by
  induction as generalizing bs with
  | nil => cases bs <;> rfl
  | cons a as ih =>
    cases bs with
    | nil => rfl
    | cons b bs =>
      rw [List.isEqv_cons_cons, ih, Bool.and_left_comm]
      simp

/-! ## Numbers -/

/-- The number with no sign if it is zero. -/
def Finite64.unsignZero (x : Finite64) : Finite64 := if x.isZero then zero else x

/-- Numbers are equal if they are the same with no sign at zero. -/
theorem Finite64.equal_iff {x y : Finite64} :
    x.equal y = true ↔ x.unsignZero = y.unsignZero := by
  unfold equal unsignZero
  rw [Bool.or_eq_true, Bool.and_eq_true, beq_iff_eq]
  by_cases hx : x.isZero = true <;> by_cases hy : y.isZero = true
  · simp [hx, hy]
  · have hne : x ≠ y := fun h => hy (h ▸ hx)
    have hzero : zero ≠ y := fun h => hy (h ▸ rfl)
    simp [hx, hy, hne, hzero]
  · have hne : x ≠ y := fun h => hx (h ▸ hy)
    have hzero : x ≠ zero := fun h => hx (h ▸ rfl)
    simp [hx, hy, hne, hzero]
  · simp [hx, hy]

namespace JsonNumber

/-- The number with no sign if it is zero. -/
def unsignZero : JsonNumber → JsonNumber
  | integer n bounds => integer n bounds
  | real x => real x.unsignZero

theorem equal_iff {m n : JsonNumber} : m.equal n = true ↔ m.unsignZero = n.unsignZero := by
  cases m <;> cases n <;> simp [equal, unsignZero, Finite64.equal_iff]

end JsonNumber

/-! ## Data values -/

namespace Json

mutual

/-- **Equality of data values**: numbers of a kind by value, arrays item by item, and objects entry
by entry. The order of entries counts, so equal objects have equal values under every name. -/
def equal : Json → Json → Bool
  | null, null => true
  | bool a, bool b => a == b
  | number a, number b => a.equal b
  | string a, string b => a == b
  | array as, array bs => equalItems as bs
  | object as, object bs => equalEntries as bs
  | unreadable, unreadable => true
  | _, _ => false

/-- Equality item by item. -/
def equalItems : List Json → List Json → Bool
  | [], [] => true
  | a :: as, b :: bs => equal a b && equalItems as bs
  | _, _ => false

/-- Equality entry by entry. -/
def equalEntries : List (String × Json) → List (String × Json) → Bool
  | [], [] => true
  | (m, a) :: as, (n, b) :: bs => m == n && equal a b && equalEntries as bs
  | _, _ => false

end

mutual

/-- **The value with no sign at any zero.** -/
def unsignZeros : Json → Json
  | number n => number n.unsignZero
  | array items => array (itemsUnsignZeros items)
  | object entries => object (entriesUnsignZeros entries)
  | value => value

/-- The items with no sign at any zero. -/
def itemsUnsignZeros : List Json → List Json
  | [] => []
  | item :: rest => unsignZeros item :: itemsUnsignZeros rest

/-- The entries with no sign at any zero. -/
def entriesUnsignZeros : List (String × Json) → List (String × Json)
  | [] => []
  | (name, value) :: rest => (name, unsignZeros value) :: entriesUnsignZeros rest

end

theorem equalItems_eq_isEqv (as bs : List Json) : equalItems as bs = as.isEqv bs equal :=
  eq_isEqv_of_rec rfl (fun _ _ => rfl) (fun _ _ => rfl) (fun _ _ _ _ => rfl) as bs

theorem equalEntries_eq_isEqv (as bs : List (String × Json)) :
    equalEntries as bs = as.isEqv bs fun a b => a.1 == b.1 && a.2.equal b.2 :=
  eq_isEqv_of_rec rfl (fun _ _ => rfl) (fun _ _ => rfl) (fun _ _ _ _ => rfl) as bs

theorem itemsUnsignZeros_eq_map (items : List Json) :
    itemsUnsignZeros items = items.map unsignZeros :=
  eq_map_of_rec rfl (fun _ _ => rfl) items

theorem entriesUnsignZeros_eq_map (entries : List (String × Json)) :
    entriesUnsignZeros entries = entries.map fun e => (e.1, e.2.unsignZeros) :=
  eq_map_of_rec rfl (fun _ _ => rfl) entries

/-- **Values are equal if they are the same with no sign at any zero.** -/
theorem equal_iff {i j : Json} : i.equal j = true ↔ i.unsignZeros = j.unsignZeros := by
  induction i using byParts generalizing j with
  | null | bool | string | unreadable => cases j <;> simp [equal, unsignZeros]
  | number m => cases j <;> simp [equal, unsignZeros, JsonNumber.equal_iff]
  | array items ih =>
    have hitems (others : List Json) : equalItems items others = true ↔
        itemsUnsignZeros items = itemsUnsignZeros others := by
      rw [equalItems_eq_isEqv, isEqv_iff_map_eq fun i hi j => ih i hi, itemsUnsignZeros_eq_map,
        itemsUnsignZeros_eq_map]
    cases j <;> simp [equal, unsignZeros, hitems]
  | object entries ih =>
    have hentry : ∀ e ∈ entries, ∀ d : String × Json,
        (e.1 == d.1 && e.2.equal d.2) = true ↔ (e.1, e.2.unsignZeros) = (d.1, d.2.unsignZeros) := by
      intro e he d
      rw [Bool.and_eq_true, beq_iff_eq, ih e he, Prod.mk.injEq]
    have hentries (others : List (String × Json)) : equalEntries entries others = true ↔
        entriesUnsignZeros entries = entriesUnsignZeros others := by
      rw [equalEntries_eq_isEqv, isEqv_iff_map_eq hentry, entriesUnsignZeros_eq_map,
        entriesUnsignZeros_eq_map]
    cases j <;> simp [equal, unsignZeros, hentries]

theorem entriesUnsignZeros_append (xs ys : List (String × Json)) :
    entriesUnsignZeros (xs ++ ys) = entriesUnsignZeros xs ++ entriesUnsignZeros ys := by
  simp only [entriesUnsignZeros_eq_map, List.map_append]

theorem entriesUnsignZeros_entryOf? (name : String) (value : Option Json) :
    entriesUnsignZeros (entryOf? name value) = entryOf? name (value.map unsignZeros) := by
  cases value <;> rfl

theorem entriesUnsignZeros_entryOfList (name : String) (items : List Json) :
    entriesUnsignZeros (entryOfList name items) = entryOfList name (items.map unsignZeros) := by
  cases items with
  | nil => rfl
  | cons item rest =>
    show [(name, Json.array (itemsUnsignZeros (item :: rest)))] = _
    rw [itemsUnsignZeros_eq_map]
    rfl

section

variable {α : Type} {toJson : α → Json}

theorem unsignZeros_map (h : ∀ x, (toJson x).unsignZeros = toJson x) (xs : List α) :
    (xs.map toJson).map unsignZeros = xs.map toJson := by
  rw [List.map_map]
  exact List.map_congr_left fun x _ => h x

theorem unsignZeros_map? (h : ∀ x, (toJson x).unsignZeros = toJson x) (x? : Option α) :
    (x?.map toJson).map unsignZeros = x?.map toJson := by
  cases x? with
  | none => rfl
  | some x => exact congrArg some (h x)

end

end Json

/-! ## Literals -/

namespace Literal

mutual

/-- **The literal with no sign at any zero.** -/
def unsignZeros : Literal → Literal
  | number n => number n.unsignZero
  | list items => list (itemsUnsignZeros items)
  | literal => literal

/-- The items with no sign at any zero. -/
def itemsUnsignZeros : List Literal → List Literal
  | [] => []
  | item :: rest => unsignZeros item :: itemsUnsignZeros rest

end

theorem equalItems_eq_isEqv (as bs : List Literal) : equalItems as bs = as.isEqv bs equal :=
  eq_isEqv_of_rec rfl (fun _ _ => rfl) (fun _ _ => rfl) (fun _ _ _ _ => rfl) as bs

theorem itemsUnsignZeros_eq_map (items : List Literal) :
    itemsUnsignZeros items = items.map unsignZeros :=
  eq_map_of_rec rfl (fun _ _ => rfl) items

/-- **Literals are equal if they are the same with no sign at any zero.** -/
theorem equal_iff {l m : Literal} : l.equal m = true ↔ l.unsignZeros = m.unsignZeros := by
  induction l generalizing m with
  | null | boolean | string => cases m <;> simp [equal, unsignZeros]
  | number n => cases m <;> simp [equal, unsignZeros, JsonNumber.equal_iff]
  | list items ih =>
    have hitems (others : List Literal) : equalItems items others = true ↔
        itemsUnsignZeros items = itemsUnsignZeros others := by
      rw [equalItems_eq_isEqv, isEqv_iff_map_eq fun l hl m => ih l hl, itemsUnsignZeros_eq_map,
        itemsUnsignZeros_eq_map]
    cases m <;> simp [equal, unsignZeros, hitems]

/-- Literals are written with the zeros they have. -/
theorem toJson_unsignZeros (l : Literal) : l.unsignZeros.toJson = l.toJson.unsignZeros := by
  induction l with
  | null | boolean | number | string => rfl
  | list items ih =>
    rw [unsignZeros, itemsUnsignZeros_eq_map, toJson, toJson, itemsToJson_eq_map,
      itemsToJson_eq_map, Json.unsignZeros, Json.itemsUnsignZeros_eq_map, List.map_map,
      List.map_map]
    exact congrArg Json.array (List.map_congr_left ih)

/-- A membership has the same members, their zeros unsigned. -/
theorem members_unsignZeros (l : Literal) :
    l.unsignZeros.members = l.members.map unsignZeros := by
  cases l with
  | list items => exact itemsUnsignZeros_eq_map items
  | _ => rfl

end Literal

/-! ## Statements -/

/-- The parameter with no sign at any zero. -/
def Parameter.unsignZeros : Parameter → Parameter
  | value l => value l.unsignZeros
  | identifier name => identifier name

theorem Parameter.equal_iff {a b : Parameter} :
    a.equal b = true ↔ a.unsignZeros = b.unsignZeros := by
  cases a <;> cases b <;> simp [equal, unsignZeros, Literal.equal_iff]

/-- The piece with no sign at any zero. -/
def Piece.unsignZeros : Piece → Piece
  | text s => text s
  | bind a => bind a.unsignZeros

namespace Statement

/-- The statement with no sign at any zero. -/
def unsignZeros (s : Statement) : Statement := s.map Piece.unsignZeros

theorem unsignZeros_append (s t : Statement) :
    unsignZeros (s ++ t) = s.unsignZeros ++ t.unsignZeros := List.map_append

theorem unsignZeros_flatMap {α : Type} (xs : List α) (f : α → Statement) :
    unsignZeros (xs.flatMap f) = xs.flatMap fun x => (f x).unsignZeros := List.map_flatMap

/-- The text of a statement shows no zeros. -/
theorem text_unsignZeros (s : Statement) : s.unsignZeros.text = s.text := by
  unfold text unsignZeros
  rw [List.map_map]
  refine congrArg String.join (List.map_congr_left fun piece _ => ?_)
  cases piece <;> rfl

/-- The zeros of a statement are those of its parameters. -/
theorem parameters_unsignZeros (s : Statement) :
    s.unsignZeros.parameters = s.parameters.map Parameter.unsignZeros := by
  unfold parameters unsignZeros
  rw [List.filterMap_map, List.map_filterMap]
  refine List.filterMap_congr fun piece _ => ?_
  cases piece <;> rfl

theorem unsignZeros_separated (separator : String) (statements : List Statement) :
    (separated separator statements).unsignZeros =
      separated separator (statements.map unsignZeros) := by
  induction statements with
  | nil => rfl
  | cons s rest ih =>
    cases rest with
    | nil => rfl
    | cons t rest =>
      show unsignZeros (s ++ .text separator :: separated separator (t :: rest)) =
        s.unsignZeros ++ .text separator :: separated separator ((t :: rest).map unsignZeros)
      rw [unsignZeros_append, ← ih]
      rfl

end Statement

/-! ## Conditions -/

namespace Predicate

/-- The predicate with no sign at any zero of its literal. -/
def unsignZeros (p : Predicate) : Predicate := { p with literal := p.literal.unsignZeros }

theorem equal_iff {p q : Predicate} : p.equal q = true ↔ p.unsignZeros = q.unsignZeros := by
  unfold equal unsignZeros
  rw [Bool.and_eq_true, Bool.and_eq_true, beq_iff_eq, beq_iff_eq, Literal.equal_iff, mk.injEq,
    and_assoc]

theorem predicateEntries_unsignZeros (p : Predicate) :
    Condition.predicateEntries p.unsignZeros =
      Json.entriesUnsignZeros (Condition.predicateEntries p) := by
  unfold Condition.predicateEntries
  rw [show p.unsignZeros.literal = p.literal.unsignZeros from rfl, Literal.toJson_unsignZeros]
  rfl

theorem pieces_unsignZeros (p : Predicate) : p.unsignZeros.pieces = p.pieces.unsignZeros := by
  unfold pieces
  rw [show p.unsignZeros.comparison = p.comparison from rfl,
    show p.unsignZeros.column = p.column from rfl,
    show p.unsignZeros.literal = p.literal.unsignZeros from rfl, Literal.members_unsignZeros]
  split
  · rfl
  split
  · cases p.literal.members with
    | nil => rfl
    | cons l ls =>
      rw [List.map_cons]
      dsimp only
      rw [Statement.unsignZeros_append, Statement.unsignZeros_append,
        Statement.unsignZeros_separated, ← List.map_cons, List.map_map, List.map_map]
      rfl
  · rfl

end Predicate

namespace Condition

mutual

/-- **The condition with no sign at any zero.** -/
def unsignZeros : Condition → Condition
  | leaf p => leaf p.unsignZeros
  | all p group => all p.unsignZeros (groupUnsignZeros group)
  | any p group => any p.unsignZeros (groupUnsignZeros group)

/-- The conditions of a group with no sign at any zero. -/
def groupUnsignZeros : List Condition → List Condition
  | [] => []
  | c :: rest => unsignZeros c :: groupUnsignZeros rest

end

theorem equalGroups_eq_isEqv (cs ds : List Condition) : equalGroups cs ds = cs.isEqv ds equal :=
  eq_isEqv_of_rec rfl (fun _ _ => rfl) (fun _ _ => rfl) (fun _ _ _ _ => rfl) cs ds

theorem groupUnsignZeros_eq_map (group : List Condition) :
    groupUnsignZeros group = group.map unsignZeros :=
  eq_map_of_rec rfl (fun _ _ => rfl) group

theorem predicate_unsignZeros (c : Condition) :
    c.unsignZeros.predicate = c.predicate.unsignZeros := by
  cases c <;> rfl

theorem group_unsignZeros (c : Condition) : c.unsignZeros.group = c.group.map unsignZeros := by
  cases c with
  | leaf p => rfl
  | all p group | any p group => exact groupUnsignZeros_eq_map group

theorem connective_unsignZeros (c : Condition) : c.unsignZeros.connective = c.connective := by
  cases c <;> rfl

/-- **Conditions are equal if they are the same with no sign at any zero.** -/
theorem equal_iff {c d : Condition} : c.equal d = true ↔ c.unsignZeros = d.unsignZeros := by
  induction c generalizing d with
  | leaf p => cases d <;> simp [equal, unsignZeros, Predicate.equal_iff]
  | all p group ih | any p group ih =>
    have hgroup (others : List Condition) : equalGroups group others = true ↔
        groupUnsignZeros group = groupUnsignZeros others := by
      rw [equalGroups_eq_isEqv, isEqv_iff_map_eq fun c hc d => ih c hc, groupUnsignZeros_eq_map,
        groupUnsignZeros_eq_map]
    cases d <;> simp [equal, unsignZeros, Predicate.equal_iff, hgroup]

theorem toJson_unsignZeros (c : Condition) : c.unsignZeros.toJson = c.toJson.unsignZeros := by
  induction c with
  | leaf p => exact congrArg Json.object p.predicateEntries_unsignZeros
  | all p group ih | any p group ih =>
    have hgroup : groupToJson (groupUnsignZeros group) =
        Json.itemsUnsignZeros (groupToJson group) := by
      rw [groupUnsignZeros_eq_map, groupToJson_eq_map, groupToJson_eq_map,
        Json.itemsUnsignZeros_eq_map, List.map_map, List.map_map]
      exact List.map_congr_left ih
    rw [unsignZeros, toJson, toJson, Predicate.predicateEntries_unsignZeros, hgroup,
      Json.unsignZeros, Json.entriesUnsignZeros_append]
    rfl

theorem nodes_unsignZeros (c : Condition) : c.unsignZeros.nodes = c.nodes.map unsignZeros := by
  induction c using onGroups with
  | h c ih =>
    rw [nodes_eq, nodes_eq c, group_unsignZeros, List.flatMap_map, List.map_cons, List.map_flatMap,
      List.flatMap_congr ih]

theorem objections_unsignZeros (c : Condition) : c.unsignZeros.objections = c.objections := by
  unfold objections
  rw [nodes_unsignZeros, List.flatMap_map]
  refine List.flatMap_congr fun node _ => ?_
  rw [predicate_unsignZeros]
  rfl

theorem pieces_unsignZeros (c : Condition) : c.unsignZeros.pieces = c.pieces.unsignZeros := by
  induction c using onGroups with
  | h c ih =>
    have hconnective : c.connective.pieces.unsignZeros = c.connective.pieces := by
      cases c <;> rfl
    have hgroup : (c.group.map unsignZeros).flatMap (fun d => c.connective.pieces ++ d.pieces) =
        Statement.unsignZeros (c.group.flatMap fun d => c.connective.pieces ++ d.pieces) := by
      rw [List.flatMap_map, Statement.unsignZeros_flatMap]
      refine List.flatMap_congr fun d hd => ?_
      rw [Statement.unsignZeros_append, hconnective, ih d hd]
    rw [pieces_eq, pieces_eq c, group_unsignZeros, predicate_unsignZeros, connective_unsignZeros,
      Predicate.pieces_unsignZeros, hgroup]
    by_cases hnone : c.group = []
    · rw [if_pos hnone, if_pos (List.map_eq_nil_iff.mpr hnone)]
    · rw [if_neg hnone, if_neg (mt List.map_eq_nil_iff.mp hnone), Statement.unsignZeros_append,
        Statement.unsignZeros_append, Statement.unsignZeros_append]
      rfl

end Condition

end ChartData
