import ChartData.Query.Statement

/-!
# Literals and conditions as trees

A literal may be a list of literals and a condition may head a group of conditions, so both are
trees whose nodes have any number of children. What holds of a tree if it holds of its children
holds of all trees; `Literal.byItems` and `Condition.byGroups` say so, with the children as the
members of the list rather than as a list of its own sort.

A function on such a tree comes with a companion on lists of trees. The companions are the usual
functions on lists – `map`, `flatMap` – and with that said an induction over a tree never has to
speak of them. For what does not depend on the kind of a group, a condition is a predicate with a
list of conditions (`Condition.onGroups`), and its nodes and its pieces are given by one equation
each (`Condition.nodes_eq`, `Condition.pieces_eq`).
-/

namespace ChartData

/-- **A companion on lists is a map** if it goes from item to item. -/
theorem eq_map_of_rec {α β : Type} {g : α → β} {f : List α → List β} (nil : f [] = [])
    (cons : ∀ a as, f (a :: as) = g a :: f as) (as : List α) : f as = as.map g := by
  induction as with
  | nil => exact nil
  | cons a as ih => rw [cons, ih, List.map_cons]

/-! ## Literals -/

namespace Literal

/-- **Induction over literals**: what holds of a list if it holds of its items holds of every
literal. -/
@[elab_as_elim, induction_eliminator]
theorem byItems {motive : Literal → Prop} (null : motive null)
    (boolean : ∀ b, motive (boolean b)) (number : ∀ n, motive (number n))
    (string : ∀ s, motive (string s))
    (list : ∀ items, (∀ l ∈ items, motive l) → motive (list items)) : ∀ l, motive l
  | .null => null
  | .boolean b => boolean b
  | .number n => number n
  | .string s => string s
  | .list items => list items fun l _ => byItems null boolean number string list l

theorem itemsToJson_eq_map (items : List Literal) : itemsToJson items = items.map toJson :=
  eq_map_of_rec rfl (fun _ _ => rfl) items

/-- Literals are equal item by item where each is equal to itself. -/
theorem equalItems_self {items : List Literal} (h : ∀ l ∈ items, l.equal l = true) :
    equalItems items items = true := by
  induction items with
  | nil => rfl
  | cons l rest ih =>
    rw [equalItems, h l List.mem_cons_self, ih fun m hm => h m (List.mem_cons_of_mem l hm)]
    rfl

/-- **A literal equals itself.** -/
@[simp] theorem equal_self (l : Literal) : l.equal l = true := by
  induction l with
  | null => rfl
  | boolean b => exact beq_self_eq_true b
  | number n =>
    cases n with
    | integer n h => exact beq_self_eq_true n
    | real x =>
      show (x == x || (x.isZero && x.isZero)) = true
      rw [beq_self_eq_true, Bool.true_or]
  | string s => exact beq_self_eq_true s
  | list items ih => exact equalItems_self ih

end Literal

/-! ## Conditions -/

/-- A predicate equals itself. -/
@[simp] theorem Predicate.equal_self (p : Predicate) : p.equal p = true := by
  unfold Predicate.equal
  rw [beq_self_eq_true, beq_self_eq_true, Literal.equal_self]
  rfl

namespace Condition

/-- **Induction over conditions**: what holds of a condition if it holds of those of its group holds
of every condition. -/
@[elab_as_elim, induction_eliminator]
theorem byGroups {motive : Condition → Prop} (leaf : ∀ p, motive (leaf p))
    (all : ∀ p group, (∀ c ∈ group, motive c) → motive (all p group))
    (any : ∀ p group, (∀ c ∈ group, motive c) → motive (any p group)) : ∀ c, motive c
  | .leaf p => leaf p
  | .all p group => all p group fun c _ => byGroups leaf all any c
  | .any p group => any p group fun c _ => byGroups leaf all any c

theorem groupToJson_eq_map (group : List Condition) : groupToJson group = group.map toJson :=
  eq_map_of_rec rfl (fun _ _ => rfl) group

theorem groupNodes_eq_flatMap (group : List Condition) :
    groupNodes group = group.flatMap nodes := by
  induction group with
  | nil => rfl
  | cons c rest ih => rw [groupNodes, ih, List.flatMap_cons]

/-- **Induction over conditions, the same for every kind of group**: where the kind does not matter,
a condition is a predicate and a list of conditions. -/
theorem onGroups {motive : Condition → Prop}
    (h : ∀ c : Condition, (∀ d ∈ c.group, motive d) → motive c) (c : Condition) : motive c := by
  induction c with
  | leaf p => exact h _ nofun
  | all p group ih | any p group ih => exact h _ ih

/-- The nodes of a condition are itself and those of its group. -/
theorem nodes_eq (c : Condition) : c.nodes = c :: c.group.flatMap nodes := by
  cases c with
  | leaf p => rfl
  | all p group | any p group =>
    rw [nodes, groupNodes_eq_flatMap]
    rfl

/-- Conditions are equal one by one where each is equal to itself. -/
theorem equalGroups_self {group : List Condition} (h : ∀ c ∈ group, c.equal c = true) :
    equalGroups group group = true := by
  induction group with
  | nil => rfl
  | cons c rest ih =>
    rw [equalGroups, h c List.mem_cons_self, ih fun d hd => h d (List.mem_cons_of_mem c hd)]
    rfl

/-- **A condition equals itself.** -/
@[simp] theorem equal_self (c : Condition) : c.equal c = true := by
  induction c with
  | leaf p => exact Predicate.equal_self p
  | all p group ih | any p group ih =>
    rw [equal, Predicate.equal_self, equalGroups_self ih]
    rfl

/-! ### The pieces of a condition -/

/-- **The pieces of a condition** in a statement. -/
def pieces (c : Condition) : Statement := c.whereTokens.flatMap WhereToken.pieces

/-- Every condition of a group comes after the connective. -/
theorem flatMap_groupTokens (connective : WhereToken) (group : List Condition) :
    (groupTokens connective group).flatMap WhereToken.pieces =
      group.flatMap fun c => connective.pieces ++ c.pieces := by
  induction group with
  | nil => rfl
  | cons c rest ih =>
    rw [groupTokens, List.flatMap_cons, List.flatMap_append, ih, List.flatMap_cons,
      List.append_assoc]
    rfl

/-- A group in its parentheses, whatever the connective. -/
theorem flatMap_parenthesized (p : Predicate) (connective : WhereToken) (group : List Condition) :
    (.openParen :: .predicate p :: (groupTokens connective group ++ [.closeParen])).flatMap
        WhereToken.pieces =
      [.text "("] ++ (p.pieces ++ group.flatMap fun c => connective.pieces ++ c.pieces) ++
        [.text ")"] := by
  rw [List.flatMap_cons, List.flatMap_cons, List.flatMap_append, List.flatMap_singleton,
    flatMap_groupTokens, ← List.append_assoc (WhereToken.pieces _), ← List.append_assoc]
  rfl

/-- The connective of a group. A predicate alone has no use for one. -/
def connective : Condition → WhereToken
  | any _ _ => .or
  | leaf _ | all _ _ => .and

/-- **The pieces of a condition are those of its predicate**, and of its group if there is one. -/
theorem pieces_eq (c : Condition) :
    c.pieces =
      if c.group = [] then c.predicate.pieces
      else [.text "("] ++
        (c.predicate.pieces ++ c.group.flatMap fun d => c.connective.pieces ++ d.pieces) ++
        [.text ")"] := by
  cases c with
  | leaf p => exact List.flatMap_singleton _ _
  | all p group =>
    cases group with
    | nil => exact List.flatMap_singleton _ _
    | cons d rest => exact flatMap_parenthesized p .and (d :: rest)
  | any p group =>
    cases group with
    | nil => exact List.flatMap_singleton _ _
    | cons d rest => exact flatMap_parenthesized p .or (d :: rest)

/-- Conditions that all have to hold stand one after the other. -/
theorem conjunctionPieces_cons (c : Condition) (rest : List Condition) :
    (conjunctionTokens (c :: rest)).flatMap WhereToken.pieces =
      c.pieces ++ rest.flatMap fun d => [.text " AND "] ++ d.pieces := by
  rw [conjunctionTokens, List.flatMap_append, flatMap_groupTokens]
  rfl

end Condition

end ChartData
