import ChartData.Proofs.CheckedTexts

/-!
# What the text of a statement is woven from

The text of a statement consists of names and fragments of its query, of question marks for its
parameters, and of what the library itself puts between them: keywords, parentheses, commas, blanks
(`IsGlue`). Glue has no question mark and none of the characters that breaking sequences are made
of, and no two texts of a query ever meet without glue between them. `Woven` says so of a text that
begins with glue; a text that needs glue in front of it, such as a predicate, `FitsGlue`.

With that known of the text of a query's statement (`Query.woven_statement`), all else is about
`Woven` alone. The question marks are those of the parameters and those of the fragments. No
breaking sequence comes about where texts meet, because glue is always on one side of the seam.
-/

namespace ChartData

/-! ## Glue -/

/-- **Text that the library itself writes** between texts of a query. -/
def IsGlue (g : String) : Prop := g ≠ "" ∧ Unmarked g ∧ ∀ c ∈ g.toList, isBreaking c = false

instance (g : String) : Decidable (IsGlue g) :=
  @instDecidableAnd _ _ _ (@instDecidableAnd _ _ _ (List.decidableBAll _ _))

/-- **A text woven with some question marks for parameters and from some fragments**, the fragments
in order. Names may be anywhere. -/
inductive Woven : Nat → List String → String → Prop where
  | nil : Woven 0 [] ""
  | glue {n : Nat} {fs : List String} {g t : String} (hg : IsGlue g) (rest : Woven n fs t) :
    Woven n fs (g ++ t)
  | bind {n : Nat} {fs : List String} {t : String} (rest : Woven n fs t) :
    Woven (n + 1) fs ("?" ++ t)
  | name {n : Nat} {fs : List String} {g x t : String} (hg : IsGlue g) (hx : isName x = true)
    (rest : Woven n fs t) : Woven n fs (g ++ (x ++ t))
  | fragment {n : Nat} {fs : List String} {g x t : String} (hg : IsGlue g)
    (rest : Woven n fs t) : Woven n (x :: fs) (g ++ (x ++ t))

/-- **A text that is woven as soon as there is glue in front of it.** -/
def FitsGlue (n : Nat) (fs : List String) (t : String) : Prop :=
  ∀ g, IsGlue g → Woven n fs (g ++ t)

namespace Woven

variable {n m : Nat} {fs fs' : List String} {g s t : String}

theorem append (hs : Woven n fs s) (ht : Woven m fs' t) :
    Woven (n + m) (fs ++ fs') (s ++ t) := by
  induction hs with
  | nil => rwa [Nat.zero_add, String.empty_append]
  | glue hg _ ih =>
    rw [String.append_assoc]
    exact .glue hg ih
  | bind _ ih =>
    rw [String.append_assoc, Nat.add_right_comm]
    exact .bind ih
  | name hg hx _ ih =>
    rw [String.append_assoc, String.append_assoc]
    exact .name hg hx ih
  | fragment hg _ ih =>
    rw [String.append_assoc, String.append_assoc]
    exact .fragment hg ih

theorem append_names (hs : Woven n fs s) (ht : Woven 0 [] t) : Woven n fs (s ++ t) := by
  have := hs.append ht
  rwa [List.append_nil] at this

theorem ofGlue (hg : IsGlue g) : Woven 0 [] g := by
  have := glue hg nil
  rwa [String.append_empty] at this

theorem fitsGlue (h : Woven n fs t) : FitsGlue n fs t := fun _ hg => .glue hg h

end Woven

namespace FitsGlue

variable {n m : Nat} {fs fs' : List String} {separator s t : String}

theorem ofName (h : isName s = true) : FitsGlue 0 [] s := by
  intro g hg
  have := Woven.name hg h .nil
  rwa [String.append_empty] at this

theorem ofFragment (s : String) : FitsGlue 0 [s] s := by
  intro g hg
  have := Woven.fragment (x := s) hg .nil
  rwa [String.append_empty] at this

theorem append (hs : FitsGlue n fs s) (ht : Woven m fs' t) :
    FitsGlue (n + m) (fs ++ fs') (s ++ t) := by
  intro g hg
  rw [← String.append_assoc]
  exact (hs g hg).append ht

theorem append_names (hs : FitsGlue n fs s) (ht : Woven 0 [] t) : FitsGlue n fs (s ++ t) := by
  have := hs.append ht
  rwa [List.append_nil] at this

/-- Several texts with glue between them, each given with its fragments. -/
theorem intercalate (hs : IsGlue separator) {items : List (List String × String)}
    (h : ∀ i ∈ items, FitsGlue 0 i.1 i.2) :
    FitsGlue 0 (items.flatMap Prod.fst) (separator.intercalate (items.map Prod.snd)) := by
  induction items with
  | nil => exact Woven.nil.fitsGlue
  | cons i rest ih =>
    have hi := h i List.mem_cons_self
    have hrest := ih fun j hj => h j (List.mem_cons_of_mem i hj)
    cases rest with
    | nil => rwa [List.map_singleton, String.intercalate_singleton, List.flatMap_singleton]
    | cons j rest =>
      rw [List.map_cons, List.map_cons, String.intercalate_cons_cons, String.append_assoc,
        List.flatMap_cons]
      exact hi.append (hrest separator hs)

theorem intercalate_names (hs : IsGlue separator) {names : List String}
    (h : ∀ x ∈ names, isName x = true) : FitsGlue 0 [] (separator.intercalate names) := by
  have hitems : ∀ i ∈ names.map fun x => (([] : List String), x), FitsGlue 0 i.1 i.2 := by
    intro i hi
    obtain ⟨x, hx, rfl⟩ := List.mem_map.mp hi
    exact ofName (h x hx)
  have := intercalate hs hitems
  rwa [List.flatMap_map, List.flatMap_eq_nil_iff.mpr fun _ _ => rfl, List.map_map,
    show (Prod.snd ∘ fun x => (([] : List String), x)) = id from rfl, List.map_id] at this

end FitsGlue

/-! ## Question marks -/

/-- **The question marks of a woven text** are those of the parameters and those of the
fragments. -/
theorem Woven.count_questionMark {n : Nat} {fs : List String} {t : String} (h : Woven n fs t) :
    t.toList.count '?' = n + (fs.flatMap String.toList).count '?' := by
  induction h with
  | nil => rfl
  | glue hg _ ih =>
    rw [String.toList_append, List.count_append, List.count_eq_zero.mpr hg.2.1, ih, Nat.zero_add]
  | bind _ ih =>
    rw [String.toList_append, List.count_append, ih]
    show 1 + _ = _
    omega
  | name hg hx _ ih =>
    rw [String.toList_append, String.toList_append, List.count_append, List.count_append,
      List.count_eq_zero.mpr hg.2.1, List.count_eq_zero.mpr (unmarked_of_isName hx), ih,
      Nat.zero_add, Nat.zero_add]
  | fragment hg _ ih =>
    rw [String.toList_append, String.toList_append, List.count_append, List.count_append,
      List.count_eq_zero.mpr hg.2.1, ih, List.flatMap_cons, List.count_append]
    omega

/-! ## Seams -/

/-- What the induction over a woven text carries along: no breaking sequence, and a first character
that could not go on with one. -/
def Seamless (cs : List Char) : Prop :=
  Unbroken cs ∧ ∀ c ∈ cs.head?, isBreaking c = false

theorem Unbroken.append_seamless {s t : String} (hs : Unbroken s.toList)
    (ht : Seamless t.toList) : Unbroken (s ++ t).toList := by
  rw [String.toList_append]
  exact hs.append ht.1 fun _ _ e he _ => ht.2 e he

theorem IsGlue.seamless_append {g t : String} (hg : IsGlue g) (ht : Unbroken t.toList) :
    Seamless (g ++ t).toList := by
  rw [String.toList_append]
  refine ⟨(Unbroken.of_forall hg.2.2).append ht fun c hc _ _ hbreaking => ?_, fun c hc => ?_⟩
  · rw [hg.2.2 c (List.mem_of_getLast? hc)] at hbreaking
    cases hbreaking
  · rw [List.head?_append_of_ne_nil _ (mt String.toList_eq_nil_iff.mp hg.1)] at hc
    exact hg.2.2 c (List.mem_of_head? hc)

/-- **A text woven from unbroken fragments is unbroken.** -/
theorem Woven.seamless {n : Nat} {fs : List String} {t : String} (h : Woven n fs t)
    (hfs : ∀ f ∈ fs, Unbroken f.toList) : Seamless t.toList := by
  induction h with
  | nil => exact ⟨by decide, nofun⟩
  | glue hg _ ih => exact hg.seamless_append (ih hfs).1
  | bind _ ih =>
    have hmark : Unbroken "?".toList := by decide
    refine ⟨hmark.append_seamless (ih hfs), fun c hc => ?_⟩
    rw [String.toList_append] at hc
    cases hc
    decide
  | name hg hx _ ih => exact hg.seamless_append ((unbroken_of_isName hx).append_seamless (ih hfs))
  | fragment hg _ ih =>
    have hrest := ih fun f hf => hfs f (List.mem_cons_of_mem _ hf)
    exact hg.seamless_append ((hfs _ List.mem_cons_self).append_seamless hrest)

/-! ## Woven statements -/

namespace Statement

/-- Every parameter has a question mark. -/
theorem length_parameters_le_count (s : Statement) :
    s.parameters.length ≤ s.text.toList.count '?' := by
  induction s with
  | nil => exact Nat.le_refl 0
  | cons x rest ih =>
    have hx : (parameters [x]).length ≤ x.written.toList.count '?' := by
      cases x with
      | text t => exact Nat.zero_le _
      | bind parameter =>
        show 1 ≤ "?".toList.count '?'
        decide
    rw [← List.singleton_append, parameters_append, toList_text_append, List.length_append,
      List.count_append, toList_text_singleton]
    exact Nat.add_le_add hx ih

/-- **Where all question marks are parameters, each is the one that its number says.** There are no
fewer question marks than parameters before it or behind it, so there are as many. -/
theorem getElem?_parameters {before after : Statement} {parameter : Parameter}
    (h : (text (before ++ .bind parameter :: after)).toList.count '?' =
      (parameters (before ++ .bind parameter :: after)).length) :
    (parameters (before ++ .bind parameter :: after))[before.text.toList.count '?']? =
      some parameter := by
  have hbefore := before.length_parameters_le_count
  have hbehind := length_parameters_le_count (.bind parameter :: after)
  rw [toList_text_append, parameters_append, List.count_append, List.length_append] at h
  have hcount : before.text.toList.count '?' = before.parameters.length := by omega
  rw [parameters_append, hcount, List.getElem?_append_right (Nat.le_refl _), Nat.sub_self]
  rfl

/-- **A statement whose text is woven**, with a question mark for each of its parameters. -/
def Woven (fs : List String) (s : Statement) : Prop :=
  ChartData.Woven s.parameters.length fs s.text

/-- A statement whose text fits glue. -/
def FitsGlue (fs : List String) (s : Statement) : Prop :=
  ChartData.FitsGlue s.parameters.length fs s.text

variable {s t : Statement} {fs fs' : List String}

namespace Woven

theorem nil : Woven [] [] := ChartData.Woven.nil

theorem text {t : String} (h : ChartData.Woven 0 fs t) : Woven fs [.text t] := by
  unfold Woven
  rwa [text_singleton]

theorem ofGlue {g : String} (hg : IsGlue g) : Woven [] [.text g] := text (.ofGlue hg)

theorem bind (parameter : Parameter) : Woven [] [.bind parameter] :=
  (ChartData.Woven.bind .nil :)

theorem append (hs : Woven fs s) (ht : Woven fs' t) : Woven (fs ++ fs') (s ++ t) := by
  unfold Woven at *
  rw [parameters_append, List.length_append, text_append]
  exact ChartData.Woven.append hs ht

theorem fitsGlue (h : Woven fs s) : FitsGlue fs s := ChartData.Woven.fitsGlue h

theorem flatMap {α : Type} {xs : List α} {f : α → Statement} {fragments : α → List String}
    (h : ∀ x ∈ xs, Woven (fragments x) (f x)) :
    Woven (xs.flatMap fragments) (xs.flatMap f) := by
  induction xs with
  | nil => exact nil
  | cons x rest ih =>
    rw [List.flatMap_cons, List.flatMap_cons]
    exact (h x List.mem_cons_self).append (ih fun y hy => h y (List.mem_cons_of_mem x hy))

theorem flatMap_names {α : Type} {xs : List α} {f : α → Statement}
    (h : ∀ x ∈ xs, Woven [] (f x)) : Woven [] (xs.flatMap f) := by
  have hnone : xs.flatMap (fun _ => ([] : List String)) = [] :=
    List.flatMap_eq_nil_iff.mpr fun _ _ => rfl
  rw [← hnone]
  exact flatMap h

theorem separated {separator : String} (hs : IsGlue separator) {statements : List Statement}
    (h : ∀ s ∈ statements, Woven [] s) :
    Woven [] (ChartData.separated separator statements) := by
  induction statements with
  | nil => exact nil
  | cons s rest ih =>
    have hrest := ih fun t ht => h t (List.mem_cons_of_mem s ht)
    cases rest with
    | nil => exact h s List.mem_cons_self
    | cons t rest => exact (h s List.mem_cons_self).append ((ofGlue hs).append hrest)

end Woven

namespace FitsGlue

theorem text {t : String} (h : ChartData.FitsGlue 0 fs t) : FitsGlue fs [.text t] := by
  unfold FitsGlue
  rwa [text_singleton]

theorem append (hs : FitsGlue fs s) (ht : Woven fs' t) : FitsGlue (fs ++ fs') (s ++ t) := by
  unfold FitsGlue at *
  rw [parameters_append, List.length_append, text_append]
  exact ChartData.FitsGlue.append hs ht

theorem behind {g : String} (hg : IsGlue g) (h : FitsGlue fs s) :
    Woven fs ([.text g] ++ s) := by
  unfold Woven
  rw [parameters_append, text_append, text_singleton]
  exact h g hg

end FitsGlue

end Statement

/-! ## The statement of a query -/

theorem woven_aliasText {alias? : Option String} (h : ∀ x ∈ alias?.toList, isName x = true) :
    Woven 0 [] (aliasText alias?) := by
  cases alias? with
  | none => exact .nil
  | some name => exact FitsGlue.ofName (h name List.mem_cons_self) " AS " (by decide)

theorem Column.fitsGlue_selectText {c : Column} (h : ∀ x ∈ c.inlineTexts, isName x = true) :
    FitsGlue 0 [] c.selectText := by
  have hname : FitsGlue 0 [] c.name := .ofName (h _ List.mem_cons_self)
  have halias : Woven 0 [] (aliasText c.alias?) :=
    woven_aliasText fun x hx => h x (List.mem_cons_of_mem _ hx)
  unfold selectText
  refine FitsGlue.append_names ?_ halias
  split
  case h_1 a _ =>
    have hopen : IsGlue (a.name ++ if c.distinct? == some true then "(DISTINCT " else "(") := by
      cases a <;> split <;> decide
    have hclose : Woven 0 [] ")" := .ofGlue (by decide)
    exact ((hname _ hopen).append_names hclose).fitsGlue
  case h_2 => exact hname

theorem Expression.fitsGlue_selectText {e : Expression}
    (h : ∀ x ∈ e.alias?.toList, isName x = true) : FitsGlue 0 [e.text] e.selectText :=
  (FitsGlue.ofFragment e.text).append_names (woven_aliasText h)

theorem Join.woven_pieces (j : Join) : j.pieces.Woven [j.on] := by
  have hkind : IsGlue (" " ++ j.kind.sql ++ " ") := by cases j.kind <;> decide
  have hon : Woven 0 [j.on] (" ON " ++ j.on) := FitsGlue.ofFragment j.on _ (by decide)
  exact (Statement.Woven.ofGlue hkind).append ((Statement.Woven.bind _).append (.text hon))

/-- A predicate may begin with its column, so it needs glue in front. -/
theorem Predicate.fitsGlue_pieces {p : Predicate} (h : isName p.column = true) :
    p.pieces.FitsGlue [] := by
  have hcomparison (t : String) (ht : IsGlue (" " ++ p.comparison.sql ++ t)) :
      FitsGlue 0 [] (p.column ++ " " ++ p.comparison.sql ++ t) := by
    rw [String.append_assoc, String.append_assoc, ← @String.append_assoc " "]
    exact (FitsGlue.ofName h).append (.ofGlue ht)
  unfold Predicate.pieces
  split
  · have hunary := hcomparison "" (by cases p.comparison <;> decide)
    rw [String.append_empty] at hunary
    exact .text hunary
  split
  · split
    · refine Statement.Woven.fitsGlue (.ofGlue ?_)
      split <;> decide
    · have hopen := hcomparison " (" (by cases p.comparison <;> decide)
      have hmembers : Statement.Woven []
          (separated ", " (p.literal.members.map fun l => [.literal l])) := by
        refine .separated (by decide) fun s hs => ?_
        obtain ⟨l, -, rfl⟩ := List.mem_map.mp hs
        exact .bind _
      have hclose : Statement.Woven [] [.text ")"] := .ofGlue (by decide)
      exact ((Statement.FitsGlue.text hopen).append hmembers).append hclose
  · have hbinary := hcomparison " " (by cases p.comparison <;> decide)
    exact (Statement.FitsGlue.text hbinary).append (.bind _)

/-- **A condition fits glue**, with no fragments in it: all that a query brings into it are the
names of columns. -/
theorem Condition.fitsGlue_pieces (c : Condition) (h : ∀ x ∈ c.inlineTexts, isName x = true) :
    c.pieces.FitsGlue [] := by
  induction c using onGroups with
  | h c ih =>
    rw [inlineTexts_eq] at h
    have hpredicate : c.predicate.pieces.FitsGlue [] :=
      Predicate.fitsGlue_pieces (h _ List.mem_cons_self)
    have hgroup : Statement.Woven []
        (c.group.flatMap fun d => c.connective.pieces ++ d.pieces) := by
      refine .flatMap_names fun d hd => ?_
      have hfits : d.pieces.FitsGlue [] :=
        ih d hd fun x hx => h x (List.mem_cons_of_mem _ (List.mem_flatMap_of_mem hd hx))
      cases c <;> exact hfits.behind (by decide)
    rw [pieces_eq]
    split
    · exact hpredicate
    · have hopen : Statement.Woven []
          ([.text "("] ++ (c.predicate.pieces ++
            c.group.flatMap fun d => c.connective.pieces ++ d.pieces)) :=
        (hpredicate.append hgroup).behind (by decide)
      have hclose : Statement.Woven [] [.text ")"] := .ofGlue (by decide)
      exact (hopen.append hclose).fitsGlue

namespace Clauses

variable {c : Clauses}

theorem woven_selectText (hcolumns : ∀ x ∈ c.columns.flatMap Column.inlineTexts, isName x = true)
    (hexpressions : ∀ x ∈ c.expressions.flatMap (·.alias?.toList), isName x = true) :
    Woven 0 (c.expressions.map Expression.text) c.selectText := by
  let items : List (List String × String) :=
    c.columns.map (fun column => ([], column.selectText)) ++
      c.expressions.map fun e => ([e.text], e.selectText)
  have hitems : ∀ i ∈ items, FitsGlue 0 i.1 i.2 := by
    intro i hi
    rcases List.mem_append.mp hi with hi | hi
    · obtain ⟨column, hcolumn, rfl⟩ := List.mem_map.mp hi
      exact Column.fitsGlue_selectText fun x hx =>
        hcolumns x (List.mem_flatMap_of_mem hcolumn hx)
    · obtain ⟨e, he, rfl⟩ := List.mem_map.mp hi
      exact Expression.fitsGlue_selectText fun x hx =>
        hexpressions x (List.mem_flatMap_of_mem he hx)
  have htexts : c.selectTexts = items.map Prod.snd := by
    rw [List.map_append, List.map_map, List.map_map]
    rfl
  have hfragments : items.flatMap Prod.fst = c.expressions.map Expression.text := by
    rw [List.flatMap_append, List.flatMap_map, List.flatMap_map,
      List.flatMap_eq_nil_iff.mpr fun _ _ => rfl, List.nil_append, List.map_eq_flatMap]
  unfold selectText
  split
  case isTrue hnone =>
    -- The star that stands for everything is a name like any other.
    rw [List.isEmpty_iff, selectTexts, List.append_eq_nil_iff, List.map_eq_nil_iff,
      List.map_eq_nil_iff] at hnone
    rw [hnone.2]
    exact FitsGlue.ofName (by decide) "SELECT " (by decide)
  case isFalse =>
    rw [htexts, ← hfragments]
    exact FitsGlue.intercalate (by decide) hitems "SELECT " (by decide)

theorem woven_wherePieces
    (h : ∀ x ∈ c.conditions.flatMap Condition.inlineTexts, isName x = true) :
    c.wherePieces.Woven [] := by
  have hpieces : ∀ d ∈ c.conditions, d.pieces.FitsGlue [] := fun d hd =>
    d.fitsGlue_pieces fun x hx => h x (List.mem_flatMap_of_mem hd hx)
  unfold wherePieces
  cases hc : c.conditions with
  | nil => exact .nil
  | cons first rest =>
    rw [hc] at hpieces
    have hrest : Statement.Woven [] (rest.flatMap fun d => [.text " AND "] ++ d.pieces) :=
      .flatMap_names fun d hd => (hpieces d (List.mem_cons_of_mem first hd)).behind (by decide)
    rw [Condition.conjunctionPieces_cons]
    exact ((hpieces first List.mem_cons_self).append hrest).behind (by decide)

theorem woven_groupText
    (h : ∀ x ∈ c.grouping?.toList.flatMap Grouping.columns, isName x = true) :
    Woven 0 (c.grouping?.toList.flatMap (·.having?.toList)) c.groupText := by
  unfold groupText
  cases hg : c.grouping? with
  | none => exact .nil
  | some g =>
    have h : ∀ x ∈ g.columns, isName x = true := fun x hx =>
      h x (List.mem_flatMap_of_mem (Option.mem_toList.mpr hg) hx)
    have hcolumns : Woven 0 []
        (if g.columns.isEmpty then "" else " GROUP BY " ++ ", ".intercalate g.columns) := by
      split
      · exact .nil
      · exact FitsGlue.intercalate_names (by decide) h " GROUP BY " (by decide)
    rw [Option.toList_some, List.flatMap_singleton]
    show Woven (0 + 0) ([] ++ g.having?.toList) _
    refine hcolumns.append ?_
    cases g.having? with
    | none => exact .nil
    | some having => exact FitsGlue.ofFragment having " HAVING " (by decide)

theorem woven_orderText
    (h : ∀ x ∈ c.ordering?.toList.flatMap RowOrder.columns, isName x = true) :
    Woven 0 [] c.orderText := by
  unfold orderText
  cases ho : c.ordering? with
  | none => exact .nil
  | some o =>
    have h : ∀ x ∈ o.columns, isName x = true := fun x hx =>
      h x (List.mem_flatMap_of_mem (Option.mem_toList.mpr ho) hx)
    have hdirection : IsGlue (" " ++ o.direction.sql) := by cases o.direction <;> decide
    dsimp only
    split
    · exact .nil
    · rw [String.append_assoc]
      exact (FitsGlue.intercalate_names (by decide) h " ORDER BY " (by decide)).append
        (.ofGlue hdirection)

theorem woven_countPieces {keyword : String} (h : IsGlue keyword) (n? : Option UInt64) :
    (countPieces keyword n?).Woven [] := by
  cases n? with
  | none => exact .nil
  | some n => exact (Statement.Woven.ofGlue h).append (.bind _)

/-- **Clauses are woven from their fragments** if the names in them are names. -/
theorem woven_pieces (settings : QuerySettings) (h : ∀ x ∈ c.inlineNames, isName x = true) :
    (c.pieces settings).Woven c.fragments := by
  unfold inlineNames at h
  simp only [List.mem_append, or_imp, forall_and] at h
  obtain ⟨⟨⟨⟨hcolumns, hexpressions⟩, hconditions⟩, hgrouping⟩, hordering⟩ := h
  have hselect : Woven 0 (c.expressions.map Expression.text) (c.selectText ++ " FROM ") :=
    (woven_selectText hcolumns hexpressions).append_names (.ofGlue (by decide))
  have htable : Statement.Woven [] [.name c.table.name] := .bind _
  have hjoins : Statement.Woven (c.joins.map Join.on) (c.joins.flatMap Join.pieces) := by
    rw [List.map_eq_flatMap]
    exact .flatMap fun j _ => j.woven_pieces
  have hgroup : Woven 0 (c.grouping?.toList.flatMap (·.having?.toList))
      (c.groupText ++ c.orderText) :=
    (woven_groupText hgrouping).append_names (woven_orderText hordering)
  have hlimit : (countPieces " LIMIT " (c.effectiveLimit? settings)).Woven [] :=
    woven_countPieces (by decide) _
  have hoffset : (countPieces " OFFSET " c.offset?).Woven [] := woven_countPieces (by decide) _
  have hall := ((((((Statement.Woven.text hselect).append htable).append hjoins).append
    (woven_wherePieces hconditions)).append (.text hgroup)).append hlimit).append hoffset
  simp only [List.append_nil] at hall
  exact hall

end Clauses

namespace Query

/-- **The statement of a query is woven from its fragments** if the names in it are names. -/
theorem woven_statement (settings : QuerySettings) (q : Query)
    (h : ∀ x ∈ q.inlineNames, isName x = true) : (q.statement settings).Woven q.fragments := by
  induction q with
  | plain c => exact c.woven_pieces settings h
  | withNamed name inner c ih =>
    have hinner := ih fun x hx => h x (List.mem_append_left _ hx)
    have hclauses : (c.pieces settings).Woven c.fragments :=
      c.woven_pieces settings fun x hx => h x (List.mem_append_right _ hx)
    have hfront : Statement.Woven [] [.text "WITH ", .name name, .text " AS ("] :=
      (Statement.Woven.ofGlue (by decide)).append
        ((Statement.Woven.bind _).append (.ofGlue (by decide)))
    have hback : Statement.Woven [] [.text ") "] := .ofGlue (by decide)
    have hall := ((hfront.append hinner).append hback).append hclauses
    rwa [List.nil_append, List.append_nil] at hall

/-! ## Statements of queries that pass the check -/

variable {settings : QuerySettings} {q : Query}

/-- **The question marks of a checked statement.** There is one for each parameter, and besides them
there are those of the fragments, which the check lets through. Where the fragments have none, the
question mark of every parameter has the number of that parameter. -/
theorem count_questionMark_of_check (h : q.check settings = .ok ()) :
    (q.statement settings).text.toList.count '?' =
        (q.statement settings).parameters.length + (q.fragments.flatMap String.toList).count '?' ∧
      ((q.statement settings).text.toList.count '?' = (q.statement settings).parameters.length ↔
        ∀ f ∈ q.fragments, '?' ∉ f.toList) ∧
      ((∀ f ∈ q.fragments, '?' ∉ f.toList) → ∀ (before after : Statement) (parameter : Parameter),
        q.statement settings = before ++ .bind parameter :: after →
          (q.statement settings).parameters[before.text.toList.count '?']? = some parameter) := by
  have hcount := (q.woven_statement settings (texts_of_check h).1).count_questionMark
  have hnone : (q.fragments.flatMap String.toList).count '?' = 0 ↔
      ∀ f ∈ q.fragments, '?' ∉ f.toList := by
    rw [List.count_eq_zero, List.mem_flatMap]
    exact ⟨fun hnone f hf hmark => hnone ⟨f, hf, hmark⟩,
      fun hall ⟨f, hf, hmark⟩ => hall f hf hmark⟩
  refine ⟨hcount, ?_, fun hfragments before after parameter hsplit => ?_⟩
  · rw [hcount, Nat.add_eq_left]
    exact hnone
  · rw [hnone.mpr hfragments, Nat.add_zero, hsplit] at hcount
    rw [hsplit]
    exact Statement.getElem?_parameters hcount

/-- A condition on groups in the named query and a join behind it, without question marks of their
own. The last member of a list is the fourth parameter. -/
theorem count_questionMark_of_checked_groups :
    ∃ q : Query, q.check default = .ok () ∧ q.fragments = ["COUNT(id) > 10", "a.id = b.id"] ∧
      (q.statement default).text.toList.count '?' = (q.statement default).parameters.length ∧
      ∃ before after : Statement,
        q.statement default = before ++ .literal .null :: after ∧
        before.text = "WITH ? AS (SELECT COUNT(DISTINCT id) AS n FROM ? WHERE (state IN (?, " ∧
        (q.statement default).parameters[3]? = some (.value .null) := by
  let inner : Clauses :=
    { Clauses.ofTable (.custom "orders") with
      columns := [⟨"id", some "n", some .count, some true⟩]
      conditions :=
        [.all ⟨"state", .isIn, .list [.string "?", .null]⟩ [.leaf ⟨"paid", .isIn, .list []⟩]]
      grouping? := some ⟨[], some "COUNT(id) > 10"⟩ }
  let outer : Clauses :=
    { Clauses.ofTable (.custom "recent") with
      joins := [⟨.custom "b", .left, "a.id = b.id"⟩] }
  let q := withNamed "recent" (.plain inner) outer
  have hcheck : q.check default = .ok () := by decide +kernel
  have hfragments : ∀ f ∈ q.fragments, '?' ∉ f.toList := by decide
  have h := count_questionMark_of_check hcheck
  have hsplit : q.statement default =
      (q.statement default).take 10 ++ .literal .null :: (q.statement default).drop 11 := rfl
  have hbefore : Statement.text ((q.statement default).take 10) =
      "WITH ? AS (SELECT COUNT(DISTINCT id) AS n FROM ? WHERE (state IN (?, " := by decide +kernel
  have hthird := h.2.2 hfragments _ _ _ hsplit
  rw [hbefore] at hthird
  exact ⟨q, hcheck, rfl, h.2.1.mpr hfragments, _, _, hsplit, hbefore, hthird⟩

/-- **A question mark without a parameter.** An expression that chooses between two values by a
question mark passes the check, and from there on every parameter is off by one. -/
theorem questionMark_of_expression :
    ∃ q : Query, q.check default = .ok () ∧
      (q.statement default).text =
        "SELECT latency > 500 ? 1 : 0 AS slow FROM ? WHERE dataset_id = ? LIMIT ?" ∧
      (q.statement default).text.toList.count '?' = 4 ∧
      (q.statement default).parameters.length = 3 := by
  let c : Clauses :=
    { Clauses.ofTable (.known .events) with
      expressions := [⟨"latency > 500 ? 1 : 0", some "slow"⟩]
      conditions := [.compare "dataset_id" .equal (.string "d")] }
  exact ⟨plain c, by decide +kernel, by decide +kernel, by decide +kernel, rfl⟩

/-- **The text of a checked statement has no sequence that ends a statement or hides part of it**,
neither in a text of the query nor where texts meet. -/
theorem text_unbroken_of_check (h : q.check settings = .ok ()) :
    ∀ d ∈ [";", "--", "/*", "*/"], ¬d.toList <:+: (q.statement settings).text.toList := by
  obtain ⟨hnames, hfragments⟩ := texts_of_check h
  exact ((q.woven_statement settings hnames).seamless fun f hf =>
    unbroken_of_fragmentFault? (hfragments f hf)).1

/-- Texts that begin and end with half a sequence each. -/
theorem text_unbroken_between_halves :
    ∃ q : Query, q.check default = .ok () ∧
      (q.statement default).text =
        "WITH ? AS (SELECT COUNT(*), *, / 2 -, - 1 / FROM ? LEFT JOIN ? ON * a * LIMIT ?) " ++
          "SELECT * FROM ? WHERE (a.* = ? OR *.b IS NULL) HAVING - n / LIMIT ?" ∧
      ∀ d ∈ [";", "--", "/*", "*/"], ¬d.toList <:+: (q.statement default).text.toList := by
  let inner : Clauses :=
    { Clauses.ofTable (.custom "*") with
      columns := [⟨"*", none, some .count, none⟩, ⟨"*", none, none, none⟩]
      expressions := [⟨"/ 2 -", none⟩, ⟨"- 1 /", none⟩]
      joins := [⟨.custom "*", .left, "* a *"⟩] }
  let outer : Clauses :=
    { Clauses.ofTable (.custom "*") with
      conditions := [.any ⟨"a.*", .equal, .string "--"⟩ [.leaf ⟨"*.b", .isNull, .string ";"⟩]]
      grouping? := some ⟨[], some "- n /"⟩ }
  have hcheck : (withNamed "*" (.plain inner) outer).check default = .ok () := by decide +kernel
  exact ⟨_, hcheck, by decide +kernel, text_unbroken_of_check hcheck⟩

end Query

end ChartData
