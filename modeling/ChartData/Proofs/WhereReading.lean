import ChartData.Query.Statement

/-!
# Reading a clause of conditions

What the conditions of a statement say is decided by whoever reads them, by the rules of SQL:
parentheses first, then `AND`, then `OR`. `Reads` is those rules, for the pieces that stand between
the keyword and the next clause. It knows how a predicate is written and how the four separators are
spelled, and nothing of how the pieces came about.

A reading is an expression over predicates, and its value depends on a truth assignment. There may
be several readings of the same pieces – predicates that are written alike can stand for each other
– but they all have the same value (`Reads.eval_eq`), because there is a way of finding the value
from the pieces alone, in one pass from left to right (`ClauseReader`). It keeps two truth values
for each parenthesis that is open: that of the alternatives before the last `OR`, and that of the
conjunction since.
-/

namespace ChartData

/-! ## The rules -/

/-- **An expression over predicates**, which is what a clause is read as. -/
inductive WhereExpr where
  /-- No clause at all, which restricts nothing. -/
  | always
  /-- A predicate. -/
  | atom (p : Predicate)
  /-- Both. -/
  | and (a b : WhereExpr)
  /-- One of them or both. -/
  | or (a b : WhereExpr)

/-- **The value of an expression** under a truth assignment to the predicates. -/
def WhereExpr.eval (truth : Predicate → Bool) : WhereExpr → Bool
  | always => true
  | atom p => truth p
  | and a b => a.eval truth && b.eval truth
  | or a b => a.eval truth || b.eval truth

/-- How tightly a stretch of a clause holds together. -/
inductive Binding where
  /-- A predicate, or anything in parentheses. -/
  | operand
  /-- Operands joined by `AND`. -/
  | conjunction
  /-- Conjunctions joined by `OR`. -/
  | disjunction

/-- **The precedence of SQL**: what the pieces of a clause are read as. -/
inductive Reads : Binding → Statement → WhereExpr → Prop where
  | predicate (p : Predicate) : Reads .operand p.pieces (.atom p)
  | parenthesized {s : Statement} {e : WhereExpr} (inner : Reads .disjunction s e) :
    Reads .operand ([.text "("] ++ s ++ [.text ")"]) e
  | ofOperand {s : Statement} {e : WhereExpr} (operand : Reads .operand s e) :
    Reads .conjunction s e
  | and {s t : Statement} {e f : WhereExpr} (left : Reads .conjunction s e)
    (right : Reads .operand t f) : Reads .conjunction (s ++ [.text " AND "] ++ t) (.and e f)
  | ofConjunction {s : Statement} {e : WhereExpr} (conjunction : Reads .conjunction s e) :
    Reads .disjunction s e
  | or {s t : Statement} {e f : WhereExpr} (left : Reads .disjunction s e)
    (right : Reads .conjunction t f) : Reads .disjunction (s ++ [.text " OR "] ++ t) (.or e f)

/-- **What the clause of a statement is read as**, its keyword included; a statement need not have
one. -/
inductive ReadsWhere : Statement → WhereExpr → Prop where
  | absent : ReadsWhere [] .always
  | present {s : Statement} {e : WhereExpr} (clause : Reads .disjunction s e) :
    ReadsWhere (.text " WHERE " :: s) e

/-! ## The last character of a text -/

theorem getLast?_append_eq (s : String) {t : String} {c : Char}
    (h : t.toList.getLast? = some c) : (s ++ t).toList.getLast? = some c := by
  rw [String.toList_append, List.getLast?_append, h]
  rfl

/-- Where no literal follows, a comparison ends in a letter. -/
theorem Comparison.getLast?_sql {c : Comparison} (h : c.takesNoLiteral = true) :
    c.sql.toList.getLast? = some 'L' := by
  revert h
  cases c <;> decide

/-! ## One pass from left to right -/

/-- Where in a clause a reader is. -/
inductive ReaderPlace where
  /-- Before an operand. -/
  | before
  /-- Inside a comparison of which these pieces have been read; one more is to come. -/
  | inComparison (read : Statement)
  /-- Inside a membership of which these pieces have been read. -/
  | inMembership (read : Statement)
  /-- After an operand. -/
  | after

/-- **A reader of a clause.** -/
structure ClauseReader where
  /-- The value of the alternatives that are complete. -/
  alternatives : Bool
  /-- The value of the conjunction that has begun. -/
  conjunction : Bool
  /-- The two values for each of the parentheses that are open, the innermost first. -/
  enclosing : List (Bool × Bool)
  /-- Where the reader is. -/
  place : ReaderPlace

namespace ClauseReader

/-- A reader before a clause. -/
def start : ClauseReader := ⟨false, true, [], .before⟩

/-- The value of what has been read. -/
def value (r : ClauseReader) : Bool := r.alternatives || r.conjunction

/-- The reader after an operand of the given value. -/
def operand (r : ClauseReader) (v : Bool) : ClauseReader :=
  { r with conjunction := r.conjunction && v, place := .after }

/-- **The reader after one more piece.** A text before an operand is a parenthesis, or it begins a
membership, a comparison or a predicate that ends with it; its last character tells which. -/
def step (truth : Statement → Bool) (r : ClauseReader) (x : Piece) : Option ClauseReader :=
  match r.place, x with
  | .before, .text t =>
    if t = "(" then
      some ⟨false, true, (r.alternatives, r.conjunction) :: r.enclosing, .before⟩
    else if t.toList.getLast? = some '(' then some { r with place := .inMembership [x] }
    else if t.toList.getLast? = some ' ' then some { r with place := .inComparison [x] }
    else some (r.operand (truth [x]))
  | .before, .bind _ => none
  | .inComparison read, x => some (r.operand (truth (read ++ [x])))
  | .inMembership read, .text ")" => some (r.operand (truth (read ++ [.text ")"])))
  | .inMembership read, x => some { r with place := .inMembership (read ++ [x]) }
  | .after, .text " AND " => some { r with place := .before }
  | .after, .text " OR " => some ⟨r.value, true, r.enclosing, .before⟩
  | .after, .text ")" =>
    match r.enclosing with
    | [] => none
    | (alternatives, conjunction) :: outer =>
      some (operand ⟨alternatives, conjunction, outer, .after⟩ r.value)
  | .after, _ => none

/-- **The reader after several pieces.** -/
def run (truth : Statement → Bool) (r : ClauseReader) (s : Statement) : Option ClauseReader :=
  s.foldlM (step truth) r

variable {truth : Statement → Bool} {r r' : ClauseReader} {s t : Statement}

theorem run_append (h : r.run truth s = some r') : r.run truth (s ++ t) = r'.run truth t := by
  unfold run at *
  rw [List.foldlM_append, h]
  rfl

theorem run_cons {x : Piece} (h : r.step truth x = some r') :
    r.run truth (x :: s) = r'.run truth s := by
  unfold run
  rw [List.foldlM_cons, h]
  rfl

/-! ### A predicate is read as one operand -/

/-- The reader inside a membership takes everything but a closing parenthesis. -/
theorem run_inMembership (hs : ∀ x ∈ s, x ≠ .text ")") (read : Statement) :
    run truth { r with place := .inMembership read } s =
      some { r with place := .inMembership (read ++ s) } := by
  induction s generalizing read with
  | nil =>
    rw [List.append_nil]
    rfl
  | cons x rest ih =>
    have step : step truth { r with place := .inMembership read } x =
        some { r with place := .inMembership (read ++ [x]) } := by
      have hx := hs x List.mem_cons_self
      unfold ClauseReader.step
      split
      all_goals simp_all
    rw [run_cons step, ih (fun y hy => hs y (List.mem_cons_of_mem x hy)), List.append_assoc]
    rfl

theorem ne_closing_of_mem_separated {members : List Literal} {x : Piece}
    (h : x ∈ separated ", " (members.map fun l => [Piece.literal l])) : x ≠ .text ")" := by
  induction members with
  | nil => cases h
  | cons l rest ih =>
    cases rest with
    | nil =>
      rw [List.mem_singleton.mp h]
      exact nofun
    | cons m rest =>
      rcases List.mem_cons.mp h with rfl | h
      · exact nofun
      rcases List.mem_cons.mp h with rfl | h
      · simp
      · exact ih h

/-- The reader before an operand, given a text with a blank in it – so not a parenthesis – and its
last character. -/
theorem step_before (h : r.place = .before) {t : String} {c : Char} (hb : ' ' ∈ t.toList)
    (hc : t.toList.getLast? = some c) :
    r.step truth (.text t) = some (
      if c = '(' then { r with place := .inMembership [.text t] }
      else if c = ' ' then { r with place := .inComparison [.text t] }
      else r.operand (truth [.text t])) := by
  have ht : t ≠ "(" := by
    rintro rfl
    exact absurd hb (by decide)
  unfold step
  rw [h]
  dsimp only
  rw [if_neg ht, hc]
  simp only [Option.some.injEq]
  split
  · rfl
  · split <;> rfl

/-- **The pieces of a predicate are read as one operand**, whatever its column is called. -/
theorem run_predicate (h : r.place = .before) (p : Predicate) :
    r.run truth p.pieces = some (r.operand (truth p.pieces)) := by
  have hblank : ' ' ∈ (p.column ++ " " ++ p.comparison.sql).toList := by simp
  have hblank' (t : String) : ' ' ∈ (p.column ++ " " ++ p.comparison.sql ++ t).toList := by simp
  unfold Predicate.pieces
  split
  case isTrue hp =>
    rw [run_cons (step_before h hblank (getLast?_append_eq _ (p.comparison.getLast?_sql hp)))]
    rfl
  split
  · split
    case h_1 =>
      split
      · rw [run_cons (step_before (c := '0') h (by decide) rfl)]
        rfl
      · rw [run_cons (step_before (c := '1') h (by decide) rfl)]
        rfl
    case h_2 members _ =>
      -- From the parenthesis on, the literals are passed over until it is closed.
      have hc : (p.column ++ " " ++ p.comparison.sql ++ " (").toList.getLast? = some '(' :=
        getLast?_append_eq _ (by decide)
      rw [List.append_assoc, List.singleton_append, run_cons (step_before h (hblank' _) hc),
        if_pos rfl, run_append (run_inMembership (fun x => ne_closing_of_mem_separated) _)]
      rfl
  · have hc : (p.column ++ " " ++ p.comparison.sql ++ " ").toList.getLast? = some ' ' :=
      getLast?_append_eq _ (by decide)
    rw [run_cons (step_before h (hblank' _) hc)]
    rfl

/-! ### Whatever is read has the value that one pass finds -/

/-- What one pass makes of pieces that hold together in a way, if their value is `v`. Operands and
conjunctions take part in the conjunction that has begun. A disjunction does not: an `OR` in it ends
that conjunction, so the pass finds its value only where the conjunction is empty. -/
def Finds (truth : Statement → Bool) (s : Statement) (v : Bool) : Binding → Prop
  | .operand | .conjunction =>
    ∀ r : ClauseReader, r.place = .before → r.run truth s = some (r.operand v)
  | .disjunction =>
    ∀ r : ClauseReader, r.place = .before → r.conjunction = true →
      ∃ r', r.run truth s = some r' ∧ r'.place = .after ∧ r'.enclosing = r.enclosing ∧
        r'.value = (r.alternatives || v)

/-- Parentheses make an operand of a disjunction. -/
theorem Finds.parenthesized {v : Bool} (h : Finds truth s v .disjunction) :
    Finds truth ([.text "("] ++ s ++ [.text ")"]) v .operand := by
  intro r hr
  obtain ⟨r', hrun, hplace, henclosing, hvalue⟩ :=
    h ⟨false, true, (r.alternatives, r.conjunction) :: r.enclosing, .before⟩ rfl rfl
  -- What is outside is put aside, so that the disjunction finds an empty conjunction inside.
  have opens : r.step truth (.text "(") =
      some ⟨false, true, (r.alternatives, r.conjunction) :: r.enclosing, .before⟩ := by
    unfold step
    rw [hr]
    rfl
  have closes : r'.step truth (.text ")") = some (r.operand v) := by
    unfold step
    rw [hplace]
    rw [henclosing, hvalue]
    rfl
  rw [List.append_assoc, List.singleton_append, run_cons opens, run_append hrun, run_cons closes]
  rfl

/-- A conjunction takes another operand. -/
theorem Finds.and {v w : Bool} (hs : Finds truth s v .conjunction)
    (ht : Finds truth t w .operand) :
    Finds truth (s ++ [.text " AND "] ++ t) (v && w) .conjunction := by
  intro r hr
  have between : (r.operand v).step truth (.text " AND ") =
      some { r.operand v with place := .before } := rfl
  rw [List.append_assoc, run_append (hs r hr), List.singleton_append, run_cons between,
    ht _ rfl]
  show some _ = some _
  unfold operand
  rw [Bool.and_assoc]

/-- A conjunction alone is a disjunction. -/
theorem Finds.ofConjunction {v : Bool} (h : Finds truth s v .conjunction) :
    Finds truth s v .disjunction := by
  intro r hr hc
  refine ⟨r.operand v, h r hr, rfl, rfl, ?_⟩
  -- The conjunction that has begun is empty, so it takes on the value of the pieces.
  show (r.alternatives || (r.conjunction && v)) = _
  rw [hc, Bool.true_and]

/-- A disjunction takes another conjunction. -/
theorem Finds.or {v w : Bool} (hs : Finds truth s v .disjunction)
    (ht : Finds truth t w .conjunction) :
    Finds truth (s ++ [.text " OR "] ++ t) (v || w) .disjunction := by
  intro r hr hc
  obtain ⟨r', hrun, hplace, henclosing, hvalue⟩ := hs r hr hc
  have between : r'.step truth (.text " OR ") = some ⟨r'.value, true, r'.enclosing, .before⟩ := by
    unfold step
    rw [hplace]
    rfl
  refine ⟨operand ⟨r'.value, true, r'.enclosing, .before⟩ w, ?_, rfl, henclosing, ?_⟩
  · rw [List.append_assoc, run_append hrun, List.singleton_append, run_cons between, ht _ rfl]
  · show (r'.value || (true && w)) = _
    rw [hvalue, Bool.true_and, Bool.or_assoc]

/-- **One pass finds the value of every reading.** -/
theorem finds_of_reads (truth : Statement → Bool) {b : Binding} {e : WhereExpr}
    (h : Reads b s e) :
    Finds truth s (e.eval fun p => truth p.pieces) b := by
  induction h with
  | predicate p => exact fun r hr => run_predicate hr p
  | parenthesized _ ih => exact ih.parenthesized
  | ofOperand _ ih => exact ih
  | and _ _ left right => exact left.and right
  | ofConjunction _ ih => exact ih.ofConjunction
  | or _ _ left right => exact left.or right

end ClauseReader

/-- **All readings of a clause have the same value**, once the truth of a predicate depends on
nothing but how it is written. -/
theorem ReadsWhere.eval_eq {s : Statement} {e f : WhereExpr} (he : ReadsWhere s e)
    (hf : ReadsWhere s f) (truth : Statement → Bool) :
    e.eval (fun p => truth p.pieces) = f.eval fun p => truth p.pieces := by
  cases he with
  | absent =>
    cases hf
    rfl
  | present he =>
    cases hf with
    | present hf =>
      obtain ⟨r, hr, -, -, hvalue⟩ := ClauseReader.finds_of_reads truth he .start rfl rfl
      obtain ⟨r', hr', -, -, hvalue'⟩ := ClauseReader.finds_of_reads truth hf .start rfl rfl
      rw [hr] at hr'
      cases hr'
      rw [hvalue] at hvalue'
      exact hvalue'

end ChartData
