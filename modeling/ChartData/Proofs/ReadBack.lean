import ChartData.Json.Decode

/-!
# Reading back what was written

A decoder is told how many levels of arrays and objects it may still enter. What it is given to read
nests to some depth, and with at least that many levels left the bound never bites; so a decoder
*yields* a structure for a value when it reads the structure whenever the levels reach down to the
bottom of the value (`Decoder.Yields`).

This passes from the parts to the whole. A list yields what its items yield, and a structure what
its fields yield, since what stands inside a value nests less deeply than the value. For an object
there is one more thing to know: that its entries are fields of the structure and each is there once
(`Decode.Named`), so that none is passed over and none is refused.
-/

namespace ChartData

/-! ## Depth -/

namespace Json

/-- An item nests no deeper than the items. -/
theorem depth_le_itemsDepth {items : List Json} {j : Json} (h : j ∈ items) :
    j.depth ≤ itemsDepth items := by
  induction items with
  | nil => cases h
  | cons item rest ih =>
    rw [itemsDepth]
    rcases List.mem_cons.1 h with rfl | h
    · exact Nat.le_max_left _ _
    · exact Nat.le_trans (ih h) (Nat.le_max_right _ _)

/-- What stands under a name nests no deeper than the entries. -/
theorem depth_le_entriesDepth {entries : List (String × Json)} {name : String} {j : Json}
    (h : entries.lookup name = some j) : j.depth ≤ entriesDepth entries := by
  induction entries with
  | nil => cases h
  | cons entry rest ih =>
    obtain ⟨other, value⟩ := entry
    rw [entriesDepth]
    rw [List.lookup_cons] at h
    split at h
    · cases h
      exact Nat.le_max_left _ _
    · exact Nat.le_trans (ih h) (Nat.le_max_right _ _)

theorem entriesDepth_append (entries rest : List (String × Json)) :
    entriesDepth (entries ++ rest) = max (entriesDepth entries) (entriesDepth rest) := by
  induction entries with
  | nil => exact (Nat.zero_max _).symm
  | cons entry entries ih =>
    rw [List.cons_append, entriesDepth, entriesDepth, ih, Nat.max_assoc]

/-- An object that ends with an array or an object leaves two levels for reading what is in that. -/
theorem exists_levels {entries : List (String × Json)} {name : String} {j : Json}
    {inside levels : Nat} (hj : j.depth = inside + 1)
    (h : (object (entries ++ [(name, j)])).depth ≤ levels) :
    ∃ l, levels = l + 2 ∧ inside ≤ l ∧ entriesDepth (entries ++ [(name, j)]) ≤ l + 1 := by
  rw [depth] at h
  have hinside : inside + 1 ≤ entriesDepth (entries ++ [(name, j)]) := by
    rw [entriesDepth_append, entriesDepth, hj]
    omega
  exact ⟨levels - 2, by omega, by omega, by omega⟩

/-- An entry that may be left out stands under its own name and no other. -/
@[simp] theorem lookup_entryOf? (name key : String) (value : Option Json) :
    (entryOf? name value).lookup key = if key == name then value else none := by
  cases value with
  | none => exact (ite_self none).symm
  | some j =>
    show List.lookup key [(name, j)] = _
    rw [List.lookup_cons]
    cases key == name <;> rfl

end Json

/-! ## Decoders -/

variable {α β : Type}

/-- **A decoder yields a structure for a value** when it reads the structure with as many levels
left as the value nests, or more. -/
def Decoder.Yields (d : Decoder α) (j : Json) (a : α) : Prop :=
  ∀ levels, j.depth ≤ levels → d levels j = .ok a

/-- What a decoder yields is what it reads, whatever the nesting. -/
theorem Decoder.Yields.ofJson {d : Decoder α} {j : Json} {a : α} (h : d.Yields j a) :
    d.ofJson j = .ok a :=
  h j.depth (Nat.le_refl _)

/-- A step that succeeds hands its result on. -/
theorem bind_of_eq_ok {ε : Type} {x : Except ε α} {a : α} (h : x = .ok a) (f : α → Except ε β) :
    (x >>= f) = f a := by
  rw [h]
  rfl

/-- Where every item is read, the list is. -/
theorem mapM_map_of_eq_ok {ε γ : Type} {f : β → Except ε α} {g : γ → β} {h : γ → α} {xs : List γ}
    (hf : ∀ x ∈ xs, f (g x) = .ok (h x)) : (xs.map g).mapM f = .ok (xs.map h) := by
  induction xs with
  | nil => rfl
  | cons x xs ih =>
    rw [List.map_cons, List.mapM_cons, bind_of_eq_ok (hf x List.mem_cons_self),
      bind_of_eq_ok (ih fun y hy => hf y (List.mem_cons_of_mem x hy))]
    rfl

namespace Decode

theorem yields_string (s : String) : string.Yields (.string s) s := fun _ _ => rfl

theorem yields_bool (b : Bool) : bool.Yields (.bool b) b := fun _ _ => rfl

theorem yields_uint64 (n : UInt64) : uint64.Yields (.number (.ofUInt64 n)) n := by
  intro levels _
  show wanted (JsonNumber.ofUInt64 n).toUInt64? = .ok n
  rw [JsonNumber.toUInt64?_ofUInt64]
  rfl

/-- A name yields what it is the name of. -/
theorem yields_choice {ofName? : String → Option α} {name : String} {a : α}
    (h : ofName? name = some a) : (choice ofName?).Yields (.string name) a := by
  intro levels _
  show wanted (ofName? name) = .ok a
  rw [h]
  rfl

/-- **A list yields what its items yield.** -/
theorem yields_list {d : Decoder α} {toJson : β → Json} {f : β → α} {xs : List β}
    (h : ∀ x ∈ xs, d.Yields (toJson x) (f x)) :
    (list d).Yields (.array (xs.map toJson)) (xs.map f) := by
  intro levels hl
  rw [Json.depth] at hl
  obtain ⟨levels, rfl⟩ : ∃ l, levels = l + 1 := ⟨levels - 1, by omega⟩
  refine mapM_map_of_eq_ok fun x hx => h x hx levels ?_
  have := Json.depth_le_itemsDepth (List.mem_map_of_mem (f := toJson) hx)
  omega

/-- Something that is not null is read as something. -/
theorem nullable_of_ne_null {j : Json} (hj : j ≠ .null) (d : Decoder α) (levels : Nat) :
    nullable d levels j = (d levels j).map some := by
  cases j with
  | null => exact absurd rfl hj
  | _ => rfl

/-- Something that is not null yields itself as something. -/
theorem yields_nullable {d : Decoder α} {j : Json} {a : α} (hd : d.Yields j a) (hj : j ≠ .null) :
    (nullable d).Yields j (some a) := by
  intro levels hl
  rw [nullable_of_ne_null hj, hd levels hl]
  rfl

/-! ## Structures -/

/-- **The entries of a structure**: each under the name of a field, in the order of the fields, and
no two under one name. -/
def Named (names : List String) (entries : List (String × Json)) : Prop :=
  (entries.map Prod.fst).Sublist names

theorem Named.nil (names : List String) : Named names [] := List.nil_sublist _

theorem Named.single (name : String) (j : Json) : Named [name] [(name, j)] := List.Sublist.refl _

theorem Named.entryOf? (name : String) (value : Option Json) :
    Named [name] (Json.entryOf? name value) := by
  cases value with
  | none => exact List.nil_sublist _
  | some j => exact List.Sublist.refl _

theorem Named.append {names₁ names₂ : List String} {entries₁ entries₂ : List (String × Json)}
    (h₁ : Named names₁ entries₁) (h₂ : Named names₂ entries₂) :
    Named (names₁ ++ names₂) (entries₁ ++ entries₂) := by
  unfold Named
  rw [List.map_append]
  exact List.Sublist.append h₁ h₂

/-- **All entries of a structure are its fields.** -/
theorem fields_object {names : List String} {entries : List (String × Json)} {levels : Nat}
    (hn : Named names entries) (hd : names.Nodup) :
    fields names (levels + 1) (.object entries) = .ok ⟨levels, entries⟩ := by
  have hknown : entries.filter (names.contains ·.1) = entries := by
    refine List.filter_eq_self.2 fun e he => ?_
    exact List.contains_iff_mem.2 (hn.subset (List.mem_map_of_mem he))
  show (if ((entries.filter (names.contains ·.1)).map (·.1)).Nodup then _ else _) = _
  rw [hknown, if_pos (List.Nodup.sublist hn hd)]

/-- **A structure yields what is made of its fields.** -/
theorem yields_object {names : List String} {entries : List (String × Json)} {d : Decoder α}
    {make : Fields → Except DecodeError α} {a : α} (hn : Named names entries)
    (hd : names.Nodup) (hmake : ∀ levels j, d levels j = fields names levels j >>= make)
    (ha : ∀ levels, Json.entriesDepth entries ≤ levels → make ⟨levels, entries⟩ = .ok a) :
    d.Yields (.object entries) a := by
  intro levels hl
  rw [Json.depth] at hl
  obtain ⟨levels, rfl⟩ : ∃ l, levels = l + 1 := ⟨levels - 1, by omega⟩
  rw [hmake, bind_of_eq_ok (fields_object hn hd)]
  exact ha levels (by omega)

namespace Fields

variable {f : Fields} {name : String} {d : Decoder α} {j : Json} {a default : α}

/-- A field is read from what stands under its name. -/
theorem optional_congr {levels : Nat} {entries rest : List (String × Json)}
    (h : entries.lookup name = rest.lookup name) :
    (mk levels entries).optional name d = (mk levels rest).optional name d := by
  unfold optional orElse
  rw [h]

/-- What is written under a name is read with enough levels left. -/
theorem eq_ok_of_lookup (hd : d.Yields j a) (hf : Json.entriesDepth f.written ≤ f.levels)
    (hj : f.written.lookup name = some j) : d f.levels j = .ok a :=
  hd f.levels (Nat.le_trans (Json.depth_le_entriesDepth hj) hf)

/-- A field that has to be written is read from what stands under its name. -/
theorem required_of_lookup (hj : f.written.lookup name = some j) :
    f.required name d = d f.levels j := by
  unfold required
  rw [hj]

theorem required_eq_ok (hd : d.Yields j a) (hf : Json.entriesDepth f.written ≤ f.levels)
    (hj : f.written.lookup name = some j) : f.required name d = .ok a := by
  rw [required_of_lookup hj]
  exact eq_ok_of_lookup hd hf hj

theorem orElse_eq_ok (hd : d.Yields j a) (hf : Json.entriesDepth f.written ≤ f.levels)
    (hj : f.written.lookup name = some j) : f.orElse name default d = .ok a := by
  unfold orElse
  rw [hj]
  exact eq_ok_of_lookup hd hf hj

/-- A field that is left out is absent. -/
theorem optional_eq_none (hl : f.written.lookup name = none) : f.optional name d = .ok none := by
  unfold optional orElse
  rw [hl]

/-- A field that may be left out yields nothing where it is. -/
theorem optional_eq_ok {toJson : α → Json} (a? : Option α) (hd : ∀ a, d.Yields (toJson a) a)
    (hj : ∀ a, toJson a ≠ .null) (hf : Json.entriesDepth f.written ≤ f.levels)
    (hl : f.written.lookup name = a?.map toJson) : f.optional name d = .ok a? := by
  cases a? with
  | none => exact optional_eq_none hl
  | some a => exact orElse_eq_ok (yields_nullable (hd a) (hj a)) hf hl

/-- A list that is left out where it is empty yields no items where it is. -/
theorem list_eq_ok {toJson : β → Json} {g : β → α} (xs : List β)
    (hd : ∀ x ∈ xs, d.Yields (toJson x) (g x)) (hf : Json.entriesDepth f.written ≤ f.levels)
    (hl : f.written.lookup name =
      if (xs.map toJson).isEmpty then none else some (.array (xs.map toJson))) :
    f.orElse name [] (list d) = .ok (xs.map g) := by
  cases xs with
  | nil =>
    unfold orElse
    rw [hl]
    rfl
  | cons x xs => exact orElse_eq_ok (yields_list hd) hf hl

end Fields

end Decode

end ChartData
