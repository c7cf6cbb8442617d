import ChartData.Proofs.DataText
import ChartData.Proofs.ReadLevels
import ChartData.Proofs.WrittenConditions

/-!
# The kinds of literals in data

Data do not say of which kind a literal is. It is found by trying: the kinds are gone through in
their order, for a value and again for each item of an array, and the first one that takes the value
is the kind of the literal. A kind that took too much would do harm far from where it stands – an
identifier in a list inside a list, read as a floating-point number, would be another identifier.

None does, for a value is taken by one kind at most (`Literal.Kind.of?_eq_some_of_read?`). So the
order in which the kinds are tried is of no account, nor whether one is tried again, and whoever
reads by trying reads what `Literal.ofJson?` reads, which looks at the value once
(`Literal.reads_in_turn_iff`).

What is read is what the data show (`Literal.IsShownBy`): the same kind, the same number down to
whether it is an integer, and item by item the same list. Everything is read but data in which an
object occurs, or a leaf that stands for no value (`Json.isObjectFree_iff`).
-/

namespace ChartData

/-! ## Members of lists -/

section Members

variable {α β : Type} {f g : α → Option β} {a : α} {as : List α}

/-- What is made of a list, member by member, depends on its members only. -/
theorem mapM_congr (h : ∀ a ∈ as, f a = g a) : as.mapM f = as.mapM g := by
  induction as with
  | nil => rfl
  | cons a as ih =>
    rw [List.mapM_cons, List.mapM_cons, h a List.mem_cons_self,
      ih fun b hb => h b (List.mem_cons_of_mem a hb)]

/-- **A search finds what there is at one member** if there is nothing at the others. -/
theorem findSome?_eq_of_mem (ha : a ∈ as) (h : ∀ b ∈ as, ∀ c, f b = some c → b = a) :
    as.findSome? f = f a := by
  cases hsearch : as.findSome? f with
  | none => exact (List.findSome?_eq_none_iff.mp hsearch a ha).symm
  | some c =>
    obtain ⟨b, hb, hfound⟩ := List.exists_of_findSome?_eq_some hsearch
    rw [← h b hb c hfound, hfound]

end Members

/-! ## What occurs in data -/

namespace Json

variable {j : Json}

/-- **Whether a value occurs in another**, as the whole of it or anywhere inside. -/
inductive OccursIn (k : Json) : Json → Prop
  | whole : OccursIn k k
  | item {item : Json} {items : List Json} (hitem : item ∈ items) (hk : OccursIn k item) :
      OccursIn k (array items)
  | entry {entry : String × Json} {entries : List (String × Json)} (hentry : entry ∈ entries)
      (hk : OccursIn k entry.2) : OccursIn k (object entries)

/-- **Data without an object** are those in which no object occurs, nor a leaf that stands for no
value. -/
theorem isObjectFree_iff :
    j.IsObjectFree ↔ (∀ entries, ¬(object entries).OccursIn j) ∧ ¬unreadable.OccursIn j := by
  constructor
  · intro h
    have hoccurs : ∀ k : Json, k.OccursIn j → k.IsObjectFree := by
      intro k hk
      induction hk with
      | whole => exact h
      | item hitem _ ih =>
        cases h with
        | array hitems => exact ih (hitems _ hitem)
      | entry => cases h
    refine ⟨fun entries hk => ?_, fun hk => ?_⟩
    · cases hoccurs _ hk
    · cases hoccurs _ hk
  · rintro ⟨hobject, hunreadable⟩
    induction j using byParts with
    | null => exact .null
    | bool b => exact .bool b
    | number n => exact .number n
    | string s => exact .string s
    | array items ih =>
      refine .array fun item hitem => ih item hitem (fun entries hk => ?_) fun hk => ?_
      · exact hobject entries (.item hitem hk)
      · exact hunreadable (.item hitem hk)
    | object entries => exact absurd .whole (hobject entries)
    | unreadable => exact absurd .whole hunreadable

end Json

namespace Literal

variable {j : Json} {l : Literal} {read read' : Json → Option Literal}

/-- **Whether data show a literal**: the same leaf, or an array of data that show the items of a
list, one for one and in their order. -/
inductive IsShownBy : Literal → Json → Prop
  | null : IsShownBy .null .null
  | boolean (b : Bool) : IsShownBy (.boolean b) (.bool b)
  | number (n : JsonNumber) : IsShownBy (.number n) (.number n)
  | string (s : String) : IsShownBy (.string s) (.string s)
  | list {ls : List Literal} {items : List Json} (hlength : ls.length = items.length)
      (hitems : ∀ i (hl : i < ls.length) (hj : i < items.length), IsShownBy ls[i] items[i]) :
      IsShownBy (.list ls) (.array items)

/-- A literal is shown by its data value. -/
theorem isShownBy_toJson (l : Literal) : l.IsShownBy l.toJson := by
  induction l with
  | null => exact .null
  | boolean b => exact .boolean b
  | number n => exact .number n
  | string s => exact .string s
  | list ls ih =>
    rw [toJson, itemsToJson_eq_map]
    refine .list (List.length_map toJson).symm fun i hl hj => ?_
    rw [List.getElem_map]
    exact ih _ (List.getElem_mem hl)

/-- **A literal is shown by its data value alone.** -/
theorem toJson_eq_iff : l.toJson = j ↔ l.IsShownBy j := by
  constructor
  · rintro rfl
    exact l.isShownBy_toJson
  · intro h
    induction h with
    | null | boolean | number | string => rfl
    | list hlength _ ih =>
      rw [toJson, itemsToJson_eq_map]
      refine congrArg Json.array (List.ext_getElem ?_ fun i hl hj => ?_)
      · rw [List.length_map, hlength]
      · rw [List.getElem_map]
        exact ih i _ hj

/-! ## Reading -/

/-- There is no object in what is written of a literal. -/
theorem isObjectFree_toJson (l : Literal) : l.toJson.IsObjectFree := by
  induction l with
  | null => exact .null
  | boolean b => exact .bool b
  | number n => exact .number n
  | string s => exact .string s
  | list ls ih =>
    rw [toJson, itemsToJson_eq_map]
    refine .array fun item hitem => ?_
    obtain ⟨l, hl, rfl⟩ := List.mem_map.mp hitem
    exact ih l hl

/-- **The data that are read** are those without an object. -/
theorem exists_ofJson_eq_ok_iff :
    (∃ l, Literal.decode.ofJson j = .ok l) ↔ j.IsObjectFree := by
  constructor
  · rintro ⟨l, h⟩
    rw [← (decode_eq_ok_iff.mp h).2]
    exact l.isObjectFree_toJson
  · intro h
    obtain ⟨l, rfl⟩ := h.exists_literal
    exact ⟨l, l.yields_toJson.ofJson⟩

/-! ## Kinds in turn -/

/-- **The kind of a literal.** -/
inductive Kind where
  /-- The absent value. -/
  | null
  /-- Truth values. -/
  | boolean
  /-- Numbers. -/
  | number
  /-- Strings. -/
  | string
  /-- Lists. -/
  | list
deriving DecidableEq

namespace Kind

variable {kind : Kind} {kinds : List Kind}

/-- The kinds in the order in which they are tried. -/
def all : List Kind := [null, boolean, number, string, list]

/-- **A value as a literal of a kind**, if the kind takes it, given how the items of an array are
read. A kind takes a value by its form alone, and the kind of lists an array all of whose items are
read. -/
def read? (item : Json → Option Literal) : Kind → Json → Option Literal
  | null, .null => some .null
  | boolean, .bool b => some (.boolean b)
  | number, .number n => some (.number n)
  | string, .string s => some (.string s)
  | list, .array items => (items.mapM item).map .list
  | _, _ => none

/-- The kind that a value can be of. -/
def of? : Json → Option Kind
  | .null => some null
  | .bool _ => some boolean
  | .number _ => some number
  | .string _ => some string
  | .array _ => some list
  | .object _ | .unreadable => none

/-- **A value is taken by one kind at most.** -/
theorem of?_eq_some_of_read? (h : kind.read? read j = some l) : of? j = some kind := by
  unfold read? at h
  split at h
  iterate 5 rfl
  cases h

/-- What a kind makes of a value depends on the reading of its items only. -/
theorem read?_congr (h : ∀ items, j = .array items → ∀ item ∈ items, read item = read' item) :
    kind.read? read j = kind.read? read' j := by
  unfold read?
  split
  iterate 4 rfl
  · next items => rw [mapM_congr (h items rfl)]
  · rfl

/-- **Trying the kinds is looking at the value**, in whatever order they are tried. -/
theorem findSome?_read? (h : all ⊆ kinds) (read : Json → Option Literal) (j : Json) :
    kinds.findSome? (fun kind => kind.read? read j) =
      (of? j).bind fun kind => kind.read? read j := by
  cases hkind : of? j with
  | none =>
    rw [Option.bind_none, List.findSome?_eq_none_iff]
    intro kind _
    cases hread : kind.read? read j with
    | none => rfl
    | some l => cases hkind.symm.trans (of?_eq_some_of_read? hread)
  | some kind =>
    refine findSome?_eq_of_mem (h (by cases kind <;> decide)) fun other _ l hother => ?_
    exact Option.some.inj ((of?_eq_some_of_read? hother).symm.trans hkind)

end Kind

/-- The items of an array are read one by one. -/
theorem itemsOfJson?_eq_mapM (items : List Json) : itemsOfJson? items = items.mapM ofJson? := by
  induction items with
  | nil => rfl
  | cons item items ih =>
    rw [itemsOfJson?, List.mapM_cons, ← ih]
    cases ofJson? item <;> cases itemsOfJson? items <;> rfl

/-- A literal is of the kind that its value can be of. -/
theorem ofJson?_eq (j : Json) :
    ofJson? j = (Kind.of? j).bind fun kind => kind.read? ofJson? j := by
  cases j with
  | array items => exact congrArg (Option.map Literal.list) (itemsOfJson?_eq_mapM items)
  | _ => rfl

/-- **Reading by trying the kinds**, for the value and again for every item, is reading. -/
theorem reads_in_turn_iff {kinds : List Kind} (h : Kind.all ⊆ kinds) :
    (∀ j, read j = kinds.findSome? fun kind => kind.read? read j) ↔ read = ofJson? := by
  constructor
  · intro hturn
    -- a value is read alike where its items are, and only an array has any
    have hvalue (j : Json)
        (hitems : ∀ items, j = .array items → ∀ item ∈ items, read item = ofJson? item) :
        read j = ofJson? j := by
      rw [hturn, Kind.findSome?_read? h, ofJson?_eq]
      exact Option.bind_congr fun kind _ => Kind.read?_congr hitems
    funext j
    induction j using Json.byParts with
    | array items ih => exact hvalue _ fun _ hj => Json.array.inj hj ▸ ih
    | _ => exact hvalue _ nofun
  · rintro rfl j
    rw [Kind.findSome?_read? h, ← ofJson?_eq]

/-- **Literals are read out of data exactly.** A value is read unless an object occurs in it
somewhere, or a leaf that stands for no value. What is read is written as the value it was read
from, and shown by no other: every leaf keeps its kind and every list its order. Every literal is
read back. And to try the kinds one after another, for the value and for every item of its arrays,
comes to the same, whatever the order in which they are tried. -/
theorem reads_exactly :
    (∀ j, (∃ l, Literal.decode.ofJson j = .ok l) ↔
      (∀ entries, ¬(Json.object entries).OccursIn j) ∧ ¬Json.unreadable.OccursIn j) ∧
    (∀ levels j l, Literal.decode levels j = .ok l ↔ j.depth ≤ levels ∧ l.toJson = j) ∧
    (∀ (l : Literal) j, l.toJson = j ↔ l.IsShownBy j) ∧
    (∀ l : Literal, Literal.decode.ofJson l.toJson = .ok l) ∧
    ∀ kinds, Kind.all ⊆ kinds → ∀ read : Json → Option Literal,
      (∀ j, read j = kinds.findSome? fun kind => kind.read? read j) ↔ read = ofJson? :=
  ⟨fun _ => exists_ofJson_eq_ok_iff.trans Json.isObjectFree_iff, fun _ _ _ => decode_eq_ok_iff,
    fun _ _ => toJson_eq_iff, fun l => l.yields_toJson.ofJson, fun _ h _ => reads_in_turn_iff h⟩

/-- Equal numbers of three kinds of data next to each other, and the integers at both ends two lists
further in; the kinds are tried from the last to the first. A list with an object in a list is not
read. -/
theorem reads_exactly_in_lists :
    let one : JsonNumber := .integer 1 (by decide)
    let greatest : JsonNumber := .integer 18446744073709551615 (by decide)
    let least : JsonNumber := .integer (-9223372036854775808) (by decide)
    let j : Json := .array [.number one, .number (.real .one), .string "1", .array [], .null,
      .bool true, .array [.array [.number greatest, .number least]]]
    let l : Literal := .list [.number one, .number (.real .one), .string "1", .list [], .null,
      .boolean true, .list [.list [.number greatest, .number least]]]
    Literal.decode.ofJson j = .ok l ∧ l.toJson = j ∧ Kind.all ⊆ Kind.all.reverse ∧
      ofJson? j = (Kind.all.reverse.findSome? fun kind => kind.read? ofJson? j) ∧
      ¬∃ m, Literal.decode.ofJson (.array [j, .array [.object []]]) = .ok m := by
  intro one greatest least j l
  have hkinds : Kind.all ⊆ Kind.all.reverse := fun kind hkind => List.mem_reverse.mpr hkind
  have hwritten : l.toJson = j := rfl
  obtain ⟨hread, hdecode, -, -, hturn⟩ := reads_exactly
  refine ⟨(hdecode _ j l).mpr ⟨Nat.le_refl _, hwritten⟩, hwritten, hkinds,
    (hturn _ hkinds ofJson?).mpr rfl j, fun hm => ?_⟩
  -- the object stands in the second item
  refine ((hread _).mp hm).1 [] (.item (List.mem_cons_of_mem _ List.mem_cons_self) ?_)
  exact .item List.mem_cons_self .whole

end Literal

end ChartData
