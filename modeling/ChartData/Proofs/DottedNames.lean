import ChartData.Proofs.CheckedTexts

/-!
# Names are segments with dots between them

A name is looked at as a whole: its characters one by one, then its two ends, then whether two dots
stand in a row. Nothing in that speaks of the segments between the dots. But an empty segment shows
itself in just these ways – as a dot at the front, a dot at the end, two dots in a row, or a text
with nothing in it (`nil_mem_fieldsAt_iff`). So the texts that are let through are those made of
segments, with a single dot from each to the next (`isName_iff_segments`).
-/

namespace ChartData

/-! ## Segments -/

/-- **The characters of segments**: ASCII letters and digits, the underscore and the star. -/
def isSegmentChar (c : Char) : Bool := c.isAlphanum || c == '_' || c == '*'

/-- **A segment**: one such character or more, and nothing else. -/
def IsSegment (cs : List Char) : Prop := cs ≠ [] ∧ ∀ c ∈ cs, isSegmentChar c = true

/-- What is in a name is a dot or is in a segment. -/
theorem isNameChar_iff {c : Char} :
    isNameChar c = true ↔ (c == '.') = false → isSegmentChar c = true := by
  unfold isNameChar isWordChar isSegmentChar
  cases c == '.' <;> simp

theorem dot_notMem_of_isSegment {cs : List Char} (h : IsSegment cs) : '.' ∉ cs :=
  fun hdot => absurd (h.2 '.' hdot) (by decide)

/-! ## Where a field is empty -/

/-- **A field is empty** where a text is, and where a separator stands at either end or two of them
stand in a row. -/
theorem nil_mem_fieldsAt_iff {sep : Char} {cs : List Char} :
    [] ∈ fieldsAt (· == sep) cs ↔
      cs = [] ∨ cs.head? = some sep ∨ cs.getLast? = some sep ∨ [sep, sep] <:+: cs := by
  rw [mem_fieldsAt_iff]
  constructor
  · rintro ⟨before, after, rfl, -, hbefore, hafter⟩
    rcases List.eq_nil_or_concat before with rfl | ⟨front, c, rfl⟩
    · cases after with
      | nil => exact .inl rfl
      | cons d rest =>
        cases eq_of_beq (hafter d rfl)
        exact .inr (.inl rfl)
    · have hc : c = sep := eq_of_beq (hbefore c (by simp))
      subst hc
      cases after with
      | nil => exact .inr (.inr (.inl (by simp)))
      | cons d rest =>
        cases eq_of_beq (hafter d rfl)
        exact .inr (.inr (.inr ⟨front, rest, by simp⟩))
  · rintro (rfl | hhead | hlast | ⟨front, rest, rfl⟩)
    · exact ⟨[], [], rfl, nofun, nofun, nofun⟩
    · exact ⟨[], cs, rfl, nofun, nofun, by simp [hhead]⟩
    · exact ⟨cs, [], by simp, nofun, by simp [hlast], nofun⟩
    · exact ⟨front ++ [sep], sep :: rest, by simp, nofun, by simp, by simp⟩

/-! ## Names -/

/-- **A text is a name if all its fields are segments**, and only then. -/
theorem isName_iff_fields {s : String} :
    isName s = true ↔ ∀ field ∈ fieldsAt (· == '.') s.toList, IsSegment field := by
  have hchars : (∀ field ∈ fieldsAt (· == '.') s.toList, ∀ c ∈ field, isSegmentChar c = true) ↔
      s.toList.all isNameChar = true := by
    rw [forall_mem_fieldsAt_iff, List.all_eq_true]
    exact forall₂_congr fun c _ => isNameChar_iff.symm
  have hnone : (∀ field ∈ fieldsAt (· == '.') s.toList, field ≠ []) ↔
      [] ∉ fieldsAt (· == '.') s.toList :=
    ⟨fun h hmem => h [] hmem rfl, fun h field hfield hnil => h (hnil ▸ hfield)⟩
  unfold isName IsSegment
  simp only [forall_and, hchars, hnone, nil_mem_fieldsAt_iff, not_or, Bool.and_eq_true,
    Bool.not_eq_true', List.isEmpty_eq_false_iff, bne_iff_ne, ← occursIn_iff_isInfix,
    Bool.not_eq_true]
  constructor
  · rintro ⟨⟨⟨⟨hne, hall⟩, hhead⟩, hlast⟩, hrow⟩
    exact ⟨⟨hne, hhead, hlast, hrow⟩, hall⟩
  · rintro ⟨⟨hne, hhead, hlast, hrow⟩, hall⟩
    exact ⟨⟨⟨⟨hne, hall⟩, hhead⟩, hlast⟩, hrow⟩

/-- **Cutting a text at every dot and joining parts with dots** undo each other, as long as the
parts have no dots. -/
theorem forall_mem_splitOn_dot_iff {p : List Char → Prop} (hp : ∀ part, p part → '.' ∉ part)
    {s : String} :
    (∀ part ∈ s.toList.splitOn '.', p part) ↔
      ∃ parts : List String, parts ≠ [] ∧ (∀ part ∈ parts, p part.toList) ∧
        s = ".".intercalate parts := by
  constructor
  · intro h
    have htoList : ((s.toList.splitOn '.').map String.ofList).map String.toList =
        s.toList.splitOn '.' := by
      simp [Function.comp_def]
    refine ⟨(s.toList.splitOn '.').map String.ofList, ?_, ?_, ?_⟩
    · exact fun hnil => List.splitOnP_ne_nil _ _ (List.map_eq_nil_iff.mp hnil)
    · rw [← List.forall_mem_map (P := p), htoList]
      exact h
    · rw [← String.toList_inj, String.toList_intercalate, htoList]
      exact (List.intercalate_splitOn '.').symm
  · rintro ⟨parts, hne, hparts, rfl⟩
    have hdots : ∀ part ∈ parts.map String.toList, '.' ∉ part :=
      List.forall_mem_map.mpr fun part hpart => hp _ (hparts part hpart)
    have hcut := List.splitOn_intercalate '.' hdots (by simpa using hne)
    rw [String.toList_intercalate]
    show ∀ part ∈ (['.'].intercalate _).splitOn '.', p part
    rw [hcut]
    exact List.forall_mem_map.mpr hparts

/-- **Names are segments with dots between them.** A text is a name exactly if it is made of one
segment or more with a single dot from each to the next, which is to say that cutting it at every
dot leaves nothing but segments. So two texts with a dot between them are a name exactly if both
are names. -/
theorem isName_iff_segments (s : String) :
    (isName s = true ↔
      ∃ segments : List String, segments ≠ [] ∧ (∀ segment ∈ segments, IsSegment segment.toList) ∧
        s = ".".intercalate segments) ∧
    (isName s = true ↔ ∀ part ∈ s.toList.splitOn '.', IsSegment part) ∧
    ∀ t, isName (s ++ "." ++ t) = true ↔ isName s = true ∧ isName t = true := by
  have hparts : isName s = true ↔ ∀ part ∈ s.toList.splitOn '.', IsSegment part := by
    rw [isName_iff_fields, fieldsAt_eq_splitOnP]
    rfl
  refine ⟨?_, hparts, fun t => ?_⟩
  · rw [hparts, forall_mem_splitOn_dot_iff fun _ => dot_notMem_of_isSegment]
  · have hdot : (s ++ "." ++ t).toList = s.toList ++ '.' :: t.toList := by simp
    have hfields : fieldsAt (· == '.') (s.toList ++ '.' :: t.toList) =
        fieldsAt (· == '.') s.toList ++ fieldsAt (· == '.') t.toList :=
      fieldsAt_append_cons rfl s.toList t.toList
    rw [isName_iff_fields, isName_iff_fields, isName_iff_fields, hdot, hfields,
      List.forall_mem_append]

end ChartData
