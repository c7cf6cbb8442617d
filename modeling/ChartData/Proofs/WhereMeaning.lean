import ChartData.Proofs.Trees
import ChartData.Proofs.WhereReading

/-!
# What a clause of conditions says

Conditions have a meaning of their own, which the tree gives: an *all* group is its predicate and
every condition of the group, an *any* group its predicate or one of them. A statement has only the
pieces, and says what they are read as (`ReadsWhere`). Here the two agree, for all conditions, with
any groups inside any others.

A group is read as one operand, in its parentheses or as a bare predicate. That is the invariant of
the induction over a tree (`Condition.says_meaning`): it makes the group fit behind an `AND` and
behind an `OR` alike, so no `OR` is ever read next to an `AND` of another group.
-/

namespace ChartData

/-! ## The meaning of conditions -/

/-- **The meaning of a predicate.** Nothing is a member of an empty list. -/
def Predicate.meaning (truth : Predicate → Bool) (p : Predicate) : Bool :=
  match p.comparison, p.literal with
  | .isIn, .list [] => false
  | .notIn, .list [] => true
  | _, _ => truth p

namespace Condition

mutual

/-- **The meaning of a condition** under a truth assignment to the predicates. -/
def meaning (truth : Predicate → Bool) : Condition → Bool
  | leaf p => p.meaning truth
  | all p group => p.meaning truth && allMeanings truth group
  | any p group => p.meaning truth || someMeaning truth group

/-- All conditions of a group hold. -/
def allMeanings (truth : Predicate → Bool) : List Condition → Bool
  | [] => true
  | c :: rest => meaning truth c && allMeanings truth rest

/-- A condition of a group holds. -/
def someMeaning (truth : Predicate → Bool) : List Condition → Bool
  | [] => false
  | c :: rest => meaning truth c || someMeaning truth rest

end

theorem allMeanings_eq_all (truth : Predicate → Bool) (group : List Condition) :
    allMeanings truth group = group.all (meaning truth) := by
  induction group with
  | nil => rfl
  | cons c rest ih => rw [allMeanings, ih, List.all_cons]

theorem someMeaning_eq_any (truth : Predicate → Bool) (group : List Condition) :
    someMeaning truth group = group.any (meaning truth) := by
  induction group with
  | nil => rfl
  | cons c rest ih => rw [someMeaning, ih, List.any_cons]

/-- **An *all* group is its predicate and every condition of the group.** -/
theorem meaning_all (truth : Predicate → Bool) (p : Predicate) (group : List Condition) :
    (all p group).meaning truth = (p.meaning truth && group.all (meaning truth)) := by
  rw [meaning, allMeanings_eq_all]

/-- **An *any* group is its predicate or one of the conditions of the group.** -/
theorem meaning_any (truth : Predicate → Bool) (p : Predicate) (group : List Condition) :
    (any p group).meaning truth = (p.meaning truth || group.any (meaning truth)) := by
  rw [meaning, someMeaning_eq_any]

end Condition

/-! ## The value of a predicate in a statement -/

/-- The value of a comparison of two numbers, if that is what the pieces are. -/
def Statement.constant? : Statement → Option Bool
  | [.text "1 = 0"] => some false
  | [.text "1 = 1"] => some true
  | _ => none

/-- **The value of a predicate as it is written**: its own truth value, unless it is written as a
comparison of two numbers. -/
def Predicate.writtenTruth (truth : Predicate → Bool) (p : Predicate) : Bool :=
  p.pieces.constant?.getD (truth p)

theorem Statement.constant?_of_length {s : Statement} (h : 1 < s.length) :
    constant? s = none := by
  unfold constant?
  split
  · exact absurd h (Nat.lt_irrefl 1)
  · exact absurd h (Nat.lt_irrefl 1)
  · rfl

theorem Statement.constant?_of_getLast? {t : String} (h : t.toList.getLast? = some 'L') :
    constant? [.text t] = none := by
  unfold constant?
  split
  case h_1 heq =>
    cases heq
    exact absurd h (by decide)
  case h_2 heq =>
    cases heq
    exact absurd h (by decide)
  case h_3 => rfl

/-- Only a membership in nothing is written as a comparison of two numbers. -/
theorem Predicate.constant?_pieces {p : Predicate}
    (h : p.comparison.isMembership = true → p.literal.members ≠ []) :
    p.pieces.constant? = none := by
  unfold Predicate.pieces
  split
  case isTrue hp =>
    exact Statement.constant?_of_getLast? (getLast?_append_eq _ (p.comparison.getLast?_sql hp))
  split
  case isTrue hm =>
    split
    case h_1 hnone => exact absurd hnone (h hm)
    case h_2 =>
      refine Statement.constant?_of_length ?_
      rw [List.append_assoc, List.length_append, List.length_append]
      exact Nat.lt_add_of_pos_right (Nat.add_pos_right _ Nat.one_pos)
  case isFalse => exact Statement.constant?_of_length (Nat.lt_succ_self 1)

theorem Literal.eq_list_of_members {l : Literal} (h : l.members = []) : l = .list [] := by
  cases l with
  | list items => exact congrArg list h
  | null | boolean _ | number _ | string _ => cases h

/-- A predicate as it is written has the value of its meaning. -/
theorem Predicate.writtenTruth_eq_meaning (truth : Predicate → Bool) (p : Predicate) :
    p.writtenTruth truth = p.meaning truth := by
  unfold Predicate.writtenTruth Predicate.meaning
  split
  case h_1 hc hl =>
    rw [Predicate.pieces, hc, hl]
    rfl
  case h_2 hc hl =>
    rw [Predicate.pieces, hc, hl]
    rfl
  case h_3 hin hnotIn =>
    rw [Predicate.constant?_pieces]
    · rfl
    intro hm hnone
    have hl := Literal.eq_list_of_members hnone
    cases hc : p.comparison
    case isIn => exact hin hc hl
    case notIn => exact hnotIn hc hl
    all_goals
      rw [hc] at hm
      cases hm

/-! ## Pieces that say what is meant -/

/-- **Pieces say something**, given as a value for each truth assignment, if they have a reading
with that value. -/
def Says (b : Binding) (s : Statement) (meant : (Predicate → Bool) → Bool) : Prop :=
  ∃ e, Reads b s e ∧ ∀ truth, e.eval (Predicate.writtenTruth truth) = meant truth

namespace Says

variable {s t : Statement} {v w : (Predicate → Bool) → Bool}

theorem predicate (p : Predicate) : Says .operand p.pieces fun truth => p.meaning truth :=
  ⟨.atom p, .predicate p, fun truth => p.writtenTruth_eq_meaning truth⟩

theorem parenthesized (h : Says .disjunction s v) :
    Says .operand ([.text "("] ++ s ++ [.text ")"]) v := by
  obtain ⟨e, he, hv⟩ := h
  exact ⟨e, .parenthesized he, hv⟩

theorem ofOperand (h : Says .operand s v) : Says .conjunction s v := by
  obtain ⟨e, he, hv⟩ := h
  exact ⟨e, .ofOperand he, hv⟩

theorem ofConjunction (h : Says .conjunction s v) : Says .disjunction s v := by
  obtain ⟨e, he, hv⟩ := h
  exact ⟨e, .ofConjunction he, hv⟩

theorem and (hs : Says .conjunction s v) (ht : Says .operand t w) :
    Says .conjunction (s ++ [.text " AND "] ++ t) fun truth => v truth && w truth := by
  obtain ⟨e, he, hv⟩ := hs
  obtain ⟨f, hf, hw⟩ := ht
  refine ⟨.and e f, .and he hf, fun truth => ?_⟩
  rw [WhereExpr.eval, hv, hw]

theorem or (hs : Says .disjunction s v) (ht : Says .conjunction t w) :
    Says .disjunction (s ++ [.text " OR "] ++ t) fun truth => v truth || w truth := by
  obtain ⟨e, he, hv⟩ := hs
  obtain ⟨f, hf, hw⟩ := ht
  refine ⟨.or e f, .or he hf, fun truth => ?_⟩
  rw [WhereExpr.eval, hv, hw]

end Says

namespace Condition

variable {s : Statement} {v : (Predicate → Bool) → Bool} {group : List Condition}

/-- A conjunction goes on with a group, condition by condition. -/
theorem says_andGroup (hs : Says .conjunction s v)
    (h : ∀ c ∈ group, Says .operand c.pieces fun truth => c.meaning truth) :
    Says .conjunction (s ++ group.flatMap fun c => [.text " AND "] ++ c.pieces)
      fun truth => v truth && group.all (meaning truth) := by
  induction group generalizing s v with
  | nil =>
    simp only [List.all_nil, Bool.and_true]
    rwa [List.flatMap_nil, List.append_nil]
  | cons c rest ih =>
    have := ih (hs.and (h c List.mem_cons_self)) fun d hd => h d (List.mem_cons_of_mem c hd)
    simp only [List.all_cons, ← Bool.and_assoc]
    rwa [List.flatMap_cons, ← List.append_assoc, ← List.append_assoc]

/-- A disjunction goes on with a group, condition by condition. -/
theorem says_orGroup (hs : Says .disjunction s v)
    (h : ∀ c ∈ group, Says .operand c.pieces fun truth => c.meaning truth) :
    Says .disjunction (s ++ group.flatMap fun c => [.text " OR "] ++ c.pieces)
      fun truth => v truth || group.any (meaning truth) := by
  induction group generalizing s v with
  | nil =>
    simp only [List.any_nil, Bool.or_false]
    rwa [List.flatMap_nil, List.append_nil]
  | cons c rest ih =>
    have := ih (hs.or (h c List.mem_cons_self).ofOperand)
      fun d hd => h d (List.mem_cons_of_mem c hd)
    simp only [List.any_cons, ← Bool.or_assoc]
    rwa [List.flatMap_cons, ← List.append_assoc, ← List.append_assoc]

/-- **A condition is read as one operand, with the value of its meaning.** -/
theorem says_meaning (c : Condition) : Says .operand c.pieces fun truth => c.meaning truth := by
  induction c with
  | leaf p =>
    rw [pieces_eq]
    exact Says.predicate p
  | all p group ih =>
    rw [pieces_eq]
    simp only [meaning_all]
    -- An empty group is written as its predicate, and means it.
    split
    case isTrue hnone =>
      cases hnone
      simp only [List.all_nil, Bool.and_true]
      exact Says.predicate p
    case isFalse =>
      exact (says_andGroup (Says.predicate p).ofOperand ih).ofConjunction.parenthesized
  | any p group ih =>
    rw [pieces_eq]
    simp only [meaning_any]
    split
    case isTrue hnone =>
      cases hnone
      simp only [List.any_nil, Bool.or_false]
      exact Says.predicate p
    case isFalse =>
      exact (says_orGroup (Says.predicate p).ofOperand.ofConjunction ih).parenthesized

end Condition

/-! ## The clause of a statement -/

namespace Clauses

/-- The clause has a reading with the value that is meant. -/
theorem exists_readsWhere (c : Clauses) :
    ∃ e, ReadsWhere c.wherePieces e ∧ ∀ truth,
      e.eval (Predicate.writtenTruth truth) = c.conditions.all (Condition.meaning truth) := by
  unfold wherePieces
  cases c.conditions with
  | nil => exact ⟨.always, .absent, fun truth => rfl⟩
  | cons first rest =>
    have hrest : ∀ c ∈ rest, Says .operand c.pieces fun truth => c.meaning truth :=
      fun c _ => c.says_meaning
    obtain ⟨e, he, hv⟩ := (Condition.says_andGroup first.says_meaning.ofOperand hrest).ofConjunction
    refine ⟨e, ?_, fun truth => ?_⟩
    · rw [Condition.conjunctionPieces_cons]
      exact .present he
    · rw [hv, List.all_cons]

/-- **The clause of conditions says that all conditions hold.** Read by the precedence of SQL, it
has the value of the conjunction of their meanings under every truth assignment to the predicates.
And it cannot be misread: every reading of it has that value, once predicates that are written alike
are true together. -/
theorem where_says_conditions (c : Clauses) :
    (∃ e, ReadsWhere c.wherePieces e ∧ ∀ truth : Predicate → Bool,
      e.eval (Predicate.writtenTruth truth) = c.conditions.all (Condition.meaning truth)) ∧
    ∀ e, ReadsWhere c.wherePieces e → ∀ truth : Statement → Bool,
      e.eval (Predicate.writtenTruth fun p => truth p.pieces) =
        c.conditions.all (Condition.meaning fun p => truth p.pieces) := by
  refine ⟨c.exists_readsWhere, fun e he truth => ?_⟩
  obtain ⟨f, hf, hv⟩ := c.exists_readsWhere
  rw [← hv]
  -- The two comparisons of numbers have their values by the way they are written, like all else.
  exact he.eval_eq hf fun s => s.constant?.getD (truth s)

/-- An *all* group in an *any* group, with memberships in nothing in both. -/
theorem where_says_nested_groups :
    ∃ c : Clauses,
      c.wherePieces.text =
        " WHERE (a IS NULL OR (b = ? AND 1 = 1) OR 1 = 0) AND d IS NOT NULL" ∧
      ∃ e, ReadsWhere c.wherePieces e ∧ ∀ truth : Statement → Bool,
        e.eval (Predicate.writtenTruth fun p => truth p.pieces) =
          ((truth [.text "a IS NULL"] || truth [.text "b = ", .literal (.boolean true)]) &&
            truth [.text "d IS NOT NULL"]) := by
  let c : Clauses :=
    { ofTable (.custom "t") with
      conditions :=
        [.any ⟨"a", .isNull, .null⟩
          [.all ⟨"b", .equal, .boolean true⟩ [.leaf ⟨"c", .notIn, .list []⟩],
            .leaf ⟨"c", .isIn, .list []⟩],
        .leaf ⟨"d", .isNotNull, .null⟩] }
  obtain ⟨e, he, -⟩ := c.where_says_conditions.1
  refine ⟨c, by decide +kernel, e, he, fun truth => ?_⟩
  rw [c.where_says_conditions.2 e he truth]
  show ((truth _ || (truth _ && (true && true) || (false || false))) && (truth _ && true)) = _
  simp only [Bool.and_true, Bool.or_false]
  rfl

end Clauses

end ChartData
