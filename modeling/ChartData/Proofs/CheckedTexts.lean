import ChartData.Proofs.BoundParameters
import ChartData.Proofs.ProperQueries
import Mathlib.Data.List.Infix

/-!
# What a check lets through

A query brings two kinds of text into a statement as it stands: names – of columns and of what is
selected – and fragments, which are expressions, join conditions and conditions on groups. A query
passes the check only if all of the first are names and no fragment has a fault, at every level of
the chain (`Query.texts_of_check`).

Of what that is worth, two things matter to a statement. A name has no question mark, and neither a
name nor a fragment has a sequence that ends a statement or hides part of it (`Unbroken`). A
fragment may well have a question mark: nothing that the check looks at keeps it out.
-/

namespace ChartData

/-! ## The texts of a query -/

namespace Clauses

/-- **The names that clauses bring in as they stand.** The names of tables are not among them: they
are bound. -/
def inlineNames (c : Clauses) : List String :=
  c.columns.flatMap Column.inlineTexts ++ c.expressions.flatMap (·.alias?.toList) ++
    c.conditions.flatMap Condition.inlineTexts ++ c.grouping?.toList.flatMap Grouping.columns ++
    c.ordering?.toList.flatMap RowOrder.columns

/-- **The fragments of clauses**, in the order in which they are written. -/
def fragments (c : Clauses) : List String :=
  c.expressions.map Expression.text ++ c.joins.map Join.on ++
    c.grouping?.toList.flatMap (·.having?.toList)

variable {settings : QuerySettings} {c : Clauses}

theorem texts_of_objections (h : c.objections settings = []) :
    (∀ x ∈ c.inlineNames, isName x = true) ∧ ∀ x ∈ c.fragments, fragmentFault? x = none := by
  have hproper := Query.isProper_of_objections h
  unfold inlineNames fragments Column.inlineTexts Condition.inlineTexts
  simp only [List.forall_mem_append, List.forall_mem_flatMap, List.forall_mem_map,
    List.forall_mem_cons, Option.mem_toList]
  refine ⟨⟨⟨⟨⟨?_, hproper.expressionAliases⟩, ?_⟩, hproper.grouping⟩, hproper.ordering⟩,
    ⟨hproper.expressions, hproper.joinConditions⟩, hproper.having⟩
  · exact fun column hcolumn =>
      ⟨hproper.columns column hcolumn, hproper.columnAliases column hcolumn⟩
  · exact fun d hd node hnode => hproper.conditions d hd node (Condition.mem_nodes_iff.mp hnode)

end Clauses

namespace Query

/-- The names that a query brings in as they stand, the query in front of it included. -/
def inlineNames : Query → List String
  | plain c => c.inlineNames
  | withNamed _ inner c => inner.inlineNames ++ c.inlineNames

/-- The fragments of a query, those of the query in front of it first. -/
def fragments : Query → List String
  | plain c => c.fragments
  | withNamed _ inner c => inner.fragments ++ c.fragments

variable {settings : QuerySettings} {q : Query}

/-- **All texts of a query that passes the check have been looked at.** -/
theorem texts_of_check (h : q.check settings = .ok ()) :
    (∀ x ∈ q.inlineNames, isName x = true) ∧ ∀ x ∈ q.fragments, fragmentFault? x = none := by
  rw [check_eq_ok_iff] at h
  induction q with
  | plain c => exact c.texts_of_objections h
  | withNamed name inner c ih =>
    rw [objections, List.append_eq_nil_iff, List.append_eq_nil_iff] at h
    obtain ⟨hnames, hfragments⟩ := ih h.1.2
    obtain ⟨hnames', hfragments'⟩ := c.texts_of_objections h.2
    exact ⟨List.forall_mem_append.mpr ⟨hnames, hnames'⟩,
      List.forall_mem_append.mpr ⟨hfragments, hfragments'⟩⟩

end Query

/-! ## What names are made of -/

theorem isNameChar_of_isName {s : String} (h : isName s = true) :
    ∀ c ∈ s.toList, isNameChar c = true := by
  unfold isName at h
  simp only [Bool.and_eq_true] at h
  exact List.all_eq_true.mp h.1.1.1.2

/-- A name has no question mark. -/
theorem unmarked_of_isName {s : String} (h : isName s = true) : Unmarked s :=
  fun hmark => absurd (isNameChar_of_isName h _ hmark) (by decide)

/-! ## Breaking sequences -/

theorem occursIn_iff_isInfix {needle cs : List Char} :
    occursIn needle cs = true ↔ needle <:+: cs := by
  induction cs with
  | nil => rw [occursIn, List.isEmpty_iff, List.infix_nil]
  | cons c cs ih =>
    rw [occursIn, Bool.or_eq_true, List.isPrefixOf_iff_prefix, ih, List.infix_cons_iff]

/-- **A text without a breaking sequence.** -/
def Unbroken (cs : List Char) : Prop := ∀ d ∈ breakingSequences, ¬d.toList <:+: cs

instance (cs : List Char) : Decidable (Unbroken cs) := List.decidableBAll _ _

theorem unbroken_of_isName {s : String} (h : isName s = true) : Unbroken s.toList := by
  intro d hd hin
  -- A star is part of names and of two sequences, but no sequence consists of stars alone.
  have hforeign : ∀ d ∈ breakingSequences, d.toList.any (!isNameChar ·) = true := by decide
  obtain ⟨c, hc, hforeign⟩ := List.any_eq_true.mp (hforeign d hd)
  rw [isNameChar_of_isName h c (hin.subset hc)] at hforeign
  cases hforeign

/-- **What is asked of a fragment**: something is in it, no breaking sequence, and no word that
changes data or tables. -/
theorem fragmentFault?_eq_none_iff {s : String} :
    fragmentFault? s = none ↔
      trimmed s.toList ≠ [] ∧ Unbroken s.toList ∧ ∀ w ∈ wordsOf s.toList, w ∉ changingWords := by
  have hunbroken : (breakingSequences.find? fun d => occursIn d.toList s.toList) = none ↔
      Unbroken s.toList := by
    simp only [List.find?_eq_none, occursIn_iff_isInfix]
    rfl
  unfold fragmentFault?
  dsimp only
  split
  · next hblank => simp [List.isEmpty_iff.mp hblank]
  · next hblank =>
    rw [and_iff_right (mt List.isEmpty_iff.mpr hblank), ← hunbroken]
    split
    · next hsequence => simp [hsequence]
    · next hsequence => simp [hsequence]

theorem unbroken_of_fragmentFault? {s : String} (h : fragmentFault? s = none) :
    Unbroken s.toList :=
  (fragmentFault?_eq_none_iff.mp h).2.1

/-- Whether a character is one that breaking sequences are made of. -/
def isBreaking (c : Char) : Bool := breakingSequences.any fun d => d.toList.contains c

theorem isBreaking_of_mem {d : String} (hd : d ∈ breakingSequences) {c : Char}
    (hc : c ∈ d.toList) : isBreaking c = true :=
  List.any_eq_true.mpr ⟨d, hd, List.contains_iff_mem.mpr hc⟩

namespace Unbroken

variable {cs ds : List Char}

theorem of_forall (h : ∀ c ∈ cs, isBreaking c = false) : Unbroken cs := by
  intro d hd hin
  have hne : ∀ d ∈ breakingSequences, d.toList ≠ [] := by decide
  obtain ⟨c, hc⟩ := List.exists_mem_of_ne_nil _ (hne d hd)
  have hbreaking := isBreaking_of_mem hd hc
  rw [h c (hin.subset hc)] at hbreaking
  cases hbreaking

/-- **No breaking sequence comes about at a seam**, provided that of the two characters that meet
there one is not of the kind that breaking sequences are made of. -/
theorem append (hcs : Unbroken cs) (hds : Unbroken ds)
    (hseam : ∀ c ∈ cs.getLast?, ∀ e ∈ ds.head?, isBreaking c = true → isBreaking e = false) :
    Unbroken (cs ++ ds) := by
  intro d hd hin
  rcases List.infix_append_iff.mp hin with hin | hin | ⟨l, r, hlr, hl, hr⟩
  · exact hcs d hd hin
  · exact hds d hd hin
  -- What is left is a sequence with a part on either side, unless one of the parts is empty.
  rcases List.eq_nil_or_concat l with rfl | ⟨l, c, rfl⟩
  · exact hds d hd (hlr ▸ hr.isInfix)
  cases r with
  | nil =>
    rw [List.append_nil] at hlr
    exact hcs d hd (hlr ▸ hl.isInfix)
  | cons e r =>
    have hlast : cs.getLast? = some c := by
      obtain ⟨front, rfl⟩ := hl
      rw [List.concat_eq_append, ← List.append_assoc]
      exact List.getLast?_concat
    have hhead : ds.head? = some e := by
      obtain ⟨back, rfl⟩ := hr
      rfl
    have hc : isBreaking c = true := isBreaking_of_mem hd (by rw [hlr]; simp)
    have he : isBreaking e = true := isBreaking_of_mem hd (by rw [hlr]; simp)
    rw [hseam c hlast e hhead hc] at he
    cases he

end Unbroken

end ChartData
