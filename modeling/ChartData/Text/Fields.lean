/-!
# Fields

Cutting text at separators: `cutAtFirst` at the first occurrence of one
character, `fieldsAt` at every character of a class. Both work on lists of
characters, and joining the parts again gives back the text – that is what
`append_of_cutAtFirst` says of the first, and `intercalate_fieldsAt` of the second
where one character separates.

Cutting says how fields are found. What they are can be said without it: the
longest stretches of the text that have no separator in them
(`mem_fieldsAt_iff`).
-/

namespace ChartData

/-- **The text before and after the first `sep`**, or nothing where there is none. -/
def cutAtFirst (sep : Char) : List Char → Option (List Char × List Char)
  | [] => none
  | c :: cs =>
    if c = sep then some ([], cs)
    else (cutAtFirst sep cs).map fun (before, after) => (c :: before, after)

/-- **The stretches between the characters of a class**, in order. There is always one stretch
more than there are separators, so an empty text has one empty stretch. -/
def fieldsAt (isSeparator : Char → Bool) : List Char → List (List Char)
  | [] => [[]]
  | c :: cs =>
    if isSeparator c then [] :: fieldsAt isSeparator cs
    else
      match fieldsAt isSeparator cs with
      | [] => [[c]]
      | field :: rest => (c :: field) :: rest

/-- A cut loses nothing but the separator, and cuts at the first one. -/
theorem append_of_cutAtFirst {sep : Char} {cs before after : List Char}
    (h : cutAtFirst sep cs = some (before, after)) :
    cs = before ++ sep :: after ∧ sep ∉ before := by
  induction cs generalizing before with
  | nil => simp [cutAtFirst] at h
  | cons c cs ih =>
    by_cases hc : c = sep
    · simp [cutAtFirst, hc] at h
      obtain ⟨rfl, rfl⟩ := h
      simp [hc]
    · simp only [cutAtFirst, hc, if_false, Option.map_eq_some_iff, Prod.mk.injEq] at h
      obtain ⟨⟨b, a⟩, hcut, rfl, rfl⟩ := h
      obtain ⟨rfl, hb⟩ := ih hcut
      exact ⟨by simp, by simp [hb, Ne.symm hc]⟩

/-- There is nothing to cut exactly where the separator does not occur. -/
theorem cutAtFirst_eq_none_iff {sep : Char} {cs : List Char} :
    cutAtFirst sep cs = none ↔ sep ∉ cs := by
  induction cs with
  | nil => simp [cutAtFirst]
  | cons c cs ih =>
    by_cases hc : c = sep
    · simp [cutAtFirst, hc]
    · simp [cutAtFirst, hc, ih, Ne.symm hc]

/-- The first cut of a text is found wherever its parts are known. -/
theorem cutAtFirst_append {sep : Char} {before : List Char} (after : List Char)
    (h : sep ∉ before) : cutAtFirst sep (before ++ sep :: after) = some (before, after) := by
  induction before with
  | nil => simp [cutAtFirst]
  | cons c cs ih =>
    simp only [List.mem_cons, not_or] at h
    simp [cutAtFirst, Ne.symm h.1, ih h.2]

/-! ## What fields are -/

section Fields

variable {isSeparator : Char → Bool}

/-- **The fields of a text** are the parts that a list is split into, so what is known of those is
known of fields. -/
theorem fieldsAt_eq_splitOnP (isSeparator : Char → Bool) (cs : List Char) :
    fieldsAt isSeparator cs = cs.splitOnP isSeparator := by
  induction cs with
  | nil => rfl
  | cons c cs ih =>
    obtain ⟨field, rest, hfields⟩ :=
      List.exists_cons_of_ne_nil (List.splitOnP_ne_nil isSeparator cs)
    rw [fieldsAt, ih, List.splitOnP_cons_eq_if_modifyHead, hfields]
    rfl

/-- A text without separators is its only field. -/
theorem fieldsAt_of_forall {cs : List Char} (h : ∀ c ∈ cs, isSeparator c = false) :
    fieldsAt isSeparator cs = [cs] := by
  rw [fieldsAt_eq_splitOnP]
  exact List.splitOnP_eq_singleton h

/-- **A separator parts the fields before it from those behind it.** -/
theorem fieldsAt_append_cons {sep : Char} (hsep : isSeparator sep = true) (cs rest : List Char) :
    fieldsAt isSeparator (cs ++ sep :: rest) =
      fieldsAt isSeparator cs ++ fieldsAt isSeparator rest := by
  simp only [fieldsAt_eq_splitOnP]
  exact List.splitOnP_append_cons cs rest hsep

/-- A separator closes the field before it. -/
theorem fieldsAt_append {field : List Char} {sep : Char} (hsep : isSeparator sep = true)
    (h : ∀ c ∈ field, isSeparator c = false) (rest : List Char) :
    fieldsAt isSeparator (field ++ sep :: rest) = field :: fieldsAt isSeparator rest := by
  rw [fieldsAt_append_cons hsep, fieldsAt_of_forall h]
  rfl

/-- What is changed in every character is changed in every field. -/
theorem fieldsAt_map (f : Char → Char) (cs : List Char) :
    fieldsAt isSeparator (cs.map f) =
      (fieldsAt (fun c => isSeparator (f c)) cs).map (List.map f) := by
  induction cs with
  | nil => rfl
  | cons c cs ih =>
    simp only [List.map_cons, fieldsAt, ih]
    split
    · rfl
    · cases fieldsAt (fun c => isSeparator (f c)) cs <;> rfl

/-- The fields of a text with the separator between them are the text. -/
theorem intercalate_fieldsAt (sep : Char) (cs : List Char) :
    [sep].intercalate (fieldsAt (· == sep) cs) = cs := by
  rw [fieldsAt_eq_splitOnP]
  exact List.intercalate_splitOn sep

/-- **Induction over the fields of a text**: what holds of a text without separators, and of a text
behind its first separator if it holds of the rest, holds of every text. -/
@[elab_as_elim]
theorem byFields (isSeparator : Char → Bool) {motive : List Char → Prop}
    (last : ∀ field, (∀ c ∈ field, isSeparator c = false) → motive field)
    (next : ∀ field sep rest, (∀ c ∈ field, isSeparator c = false) → isSeparator sep = true →
      motive rest → motive (field ++ sep :: rest)) (cs : List Char) : motive cs := by
  -- The characters that are read before a separator is found go into the field.
  suffices h : ∀ field, (∀ c ∈ field, isSeparator c = false) → motive (field ++ cs) from h [] nofun
  induction cs with
  | nil =>
    intro field hfield
    rw [List.append_nil]
    exact last field hfield
  | cons c cs ih =>
    intro field hfield
    cases hc : isSeparator c with
    | true => exact next field c cs hfield hc (ih [] nofun)
    | false =>
      have hlonger : ∀ d ∈ field ++ [c], isSeparator d = false := by
        intro d hd
        rcases List.mem_append.mp hd with hd | hd
        · exact hfield d hd
        · rwa [List.mem_singleton.mp hd]
      simpa using ih (field ++ [c]) hlonger

/-- **Whatever stands between separators is a field**, and the fields on either side do not depend
on it. -/
theorem exists_fieldsAt_eq {before after : List Char}
    (hbefore : ∀ c ∈ before.getLast?, isSeparator c = true)
    (hafter : ∀ c ∈ after.head?, isSeparator c = true) :
    ∃ left right, ∀ field, (∀ c ∈ field, isSeparator c = false) →
      fieldsAt isSeparator (before ++ (field ++ after)) = left ++ field :: right := by
  obtain ⟨right, hright⟩ : ∃ right, ∀ field, (∀ c ∈ field, isSeparator c = false) →
      fieldsAt isSeparator (field ++ after) = field :: right := by
    cases after with
    | nil =>
      refine ⟨[], fun field h => ?_⟩
      rw [List.append_nil, fieldsAt_of_forall h]
    | cons sep rest => exact ⟨_, fun field h => fieldsAt_append (hafter sep rfl) h rest⟩
  rcases List.eq_nil_or_concat before with rfl | ⟨front, sep, rfl⟩
  · exact ⟨[], right, hright⟩
  · refine ⟨fieldsAt isSeparator front, right, fun field h => ?_⟩
    have hsep := hbefore sep (by simp)
    rw [List.concat_eq_append, List.append_assoc, List.singleton_append,
      fieldsAt_append_cons hsep, hright field h]

/-- **The fields of a text are its longest stretches without separators**: the text begins there or
a separator stands before them, and it ends there or a separator stands behind. -/
theorem mem_fieldsAt_iff {cs field : List Char} :
    field ∈ fieldsAt isSeparator cs ↔
      ∃ before after, cs = before ++ (field ++ after) ∧ (∀ c ∈ field, isSeparator c = false) ∧
        (∀ c ∈ before.getLast?, isSeparator c = true) ∧
        ∀ c ∈ after.head?, isSeparator c = true := by
  constructor
  · intro h
    induction cs using byFields isSeparator with
    | last first hfirst =>
      rw [fieldsAt_of_forall hfirst, List.mem_singleton] at h
      subst h
      exact ⟨[], [], by simp, hfirst, nofun, nofun⟩
    | next first sep rest hfirst hsep ih =>
      rw [fieldsAt_append hsep hfirst, List.mem_cons] at h
      rcases h with rfl | h
      · exact ⟨[], sep :: rest, rfl, hfirst, nofun, by simpa using hsep⟩
      · obtain ⟨before, after, rfl, hfield, hbefore, hafter⟩ := ih h
        refine ⟨first ++ sep :: before, after, by simp, hfield, ?_, hafter⟩
        intro c hc
        rw [List.getLast?_append, List.getLast?_cons] at hc
        cases hlast : before.getLast? with
        | none =>
          rw [hlast] at hc
          cases hc
          exact hsep
        | some d =>
          rw [hlast] at hc
          cases hc
          exact hbefore d hlast
  · rintro ⟨before, after, rfl, hfield, hbefore, hafter⟩
    obtain ⟨left, right, heq⟩ := exists_fieldsAt_eq hbefore hafter
    rw [heq field hfield]
    exact List.mem_append_right left List.mem_cons_self

/-- **The fields of a text have all its characters but the separators.** -/
theorem forall_mem_fieldsAt_iff {p : Char → Prop} {cs : List Char} :
    (∀ field ∈ fieldsAt isSeparator cs, ∀ c ∈ field, p c) ↔
      ∀ c ∈ cs, isSeparator c = false → p c := by
  induction cs using byFields isSeparator with
  | last field hfield =>
    rw [fieldsAt_of_forall hfield, List.forall_mem_singleton]
    exact ⟨fun h c hc _ => h c hc, fun h c hc => h c hc (hfield c hc)⟩
  | next field sep rest hfield hsep ih =>
    rw [fieldsAt_append hsep hfield, List.forall_mem_cons, ih, List.forall_mem_append,
      List.forall_mem_cons]
    constructor
    · rintro ⟨hhere, hrest⟩
      exact ⟨fun c hc _ => hhere c hc, fun h => (nomatch hsep.symm.trans h), hrest⟩
    · rintro ⟨hhere, -, hrest⟩
      exact ⟨fun c hc => hhere c hc (hfield c hc), hrest⟩

end Fields

end ChartData
