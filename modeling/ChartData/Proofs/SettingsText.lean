import ChartData.Proofs.DocumentText
import ChartData.Proofs.QueryData

/-!
# Settings read back from their file

What is read from the file that settings are saved in (`Settings.ofFile_toFile`).

All settings but one are read back as they were. The default limit is the exception: where there is
none nothing is written about it, and where nothing is written the limit is the usual one. So
settings without a default limit are never read back. They come back with the usual limit, or not at
all if that is more than they allow.
-/

namespace ChartData

/-- A step that finds something hands it on. -/
theorem bind_of_eq_some {α β : Type} {x : Option α} {a : α} (h : x = some a) (f : α → Option β) :
    (x >>= f) = f a := by
  rw [h]
  rfl

namespace Form

variable {α δ : Type} {written : List (String × δ)} {name : String} {read : δ → Option α}

/-- A field that is written is read as what stands there. -/
theorem field_eq_some {d : δ} {a : α} (h : written.lookup name = some d) (hread : read d = some a)
    (default : α) : field written name default read = some a := by
  unfold field
  rw [h]
  exact hread

/-- A field with a name is read as what the name is the name of. -/
theorem field_choice_eq_some {form : Form δ} {d : δ} {ofName? : String → Option α} {a : α}
    (h : written.lookup name = some d) (hname : (form.choice d).bind ofName? = some a)
    (default : α) :
    field written name default (fun d => (form.choice d).bind ofName?) = some a :=
  field_eq_some h hname default

/-- A field that is not written is its default. -/
theorem field_eq_default (h : written.lookup name = none) (default : α) :
    field written name default read = some default := by
  unfold field
  rw [h]

/-- An unsigned integer of 32 bits is read where one of 64 bits with its value is. -/
theorem uint32_of_uint64 {form : Form δ} {d : δ} {n : UInt32}
    (h : form.uint64 d = some n.toUInt64) : form.uint32 d = some n := by
  have hsmall : n.toUInt64.toNat < UInt32.size := by
    rw [UInt32.toNat_toUInt64]
    exact n.toNat_lt
  unfold uint32
  rw [h, Option.filter_some, if_pos (decide_eq_true hsmall), Option.map_some,
    UInt32.toNat_toUInt64, UInt32.ofNat_toNat]

end Form

namespace Toml

/-! ## Reading a section -/

/-- All fields of a section are among those that are looked for. -/
theorem fields_of_forall {names : List String} {entries : Entries} (origin : TableOrigin)
    (h : ∀ e ∈ entries, e.1 ∈ names) : form.fields names (table origin entries) = some entries := by
  have hknown : ∀ e ∈ entries, names.contains e.1 = true := fun e he =>
    List.contains_iff_mem.2 (h e he)
  have hothers : entries.filter (fun e => !names.contains e.1) = [] :=
    List.filter_eq_nil_iff.2 fun e he => by
      rw [hknown e he]
      exact Bool.false_ne_true
  have hform : form.fields = fields := rfl
  rw [hform]
  unfold fields entries?
  dsimp only
  rw [List.partition_eq_filter_filter, List.filter_eq_self.2 hknown]
  dsimp only
  have : entries.filter (not ∘ fun e => names.contains e.1) = [] := hothers
  rw [this]
  rfl

/-- An unsigned integer of 64 bits is read back. -/
theorem uint64_toNat (n : UInt64) : form.uint64 (integer n.toNat) = some n := by
  have hform : form.uint64 = uint64? := rfl
  have := n.toNat_lt
  rw [hform]
  unfold uint64?
  dsimp only
  rw [if_pos (by omega), Int.toNat_natCast, UInt64.ofNat_toNat]

/-- An unsigned integer of 32 bits is read back. -/
theorem uint32_toNat (n : UInt32) : form.uint32 (integer n.toNat) = some n := by
  have hword : form.uint64 (integer n.toNat) = some n.toUInt64 := by
    rw [← uint64_toNat, UInt32.toNat_toUInt64]
  exact Form.uint32_of_uint64 hword

/-- A settings file has nothing by which nothing is meant. -/
theorem nullable_form {α : Type} (read : Toml → Option α) (t : Toml) :
    form.nullable read t = (read t).map some :=
  rfl

/-- Unsigned integers of 64 bits are within what a document may have. -/
theorem inIntegerRange_of_lt {n : Nat} (h : n < 2 ^ 64) : inIntegerRange n = true := by
  unfold inIntegerRange
  simp only [Bool.and_eq_true, decide_eq_true_eq]
  omega

/-! ## Definitions of settings -/

/-- A text under a name. -/
def Definition.ofString (name s : String) (h : isBareKey name.toList = true) : Definition :=
  ⟨name, quotedText s, string s, h, standsFor_quotedText s⟩

/-- A whole number under a name. -/
def Definition.ofNat (name : String) (n : Nat) (h : isBareKey name.toList = true)
    (hn : n < 2 ^ 64) : Definition :=
  ⟨name, n.repr, integer n, h, standsFor_repr (inIntegerRange_of_lt hn)⟩

end Toml

open Toml (Definition)

/-- What a settings file defines for queries. -/
def QuerySettings.definitions (q : QuerySettings) : List Definition :=
  [.ofString "default_table" q.defaultTable.name rfl] ++
    (q.defaultLimit?.map fun limit =>
      .ofNat "default_limit" limit.toNat rfl limit.toNat_lt).toList ++
    [.ofNat "max_limit" q.maxLimit.toNat rfl q.maxLimit.toNat_lt]

/-- What a settings file defines for series. -/
def SeriesSettings.definitions (s : SeriesSettings) : List Definition :=
  [.ofString "granularity" s.unit.name rfl,
    .ofNat "lookback_days" s.lookbackDays.toNat rfl
      (Nat.lt_of_lt_of_le s.lookbackDays.toNat_lt (by decide)),
    .ofString "timestamp_field" s.timestampField rfl,
    .ofString "value_field" s.valueField rfl,
    ⟨"fill", Settings.realText s.fill, .real s.fill, rfl, Toml.standsFor_realText _⟩,
    ⟨"fill_with_null", Settings.boolText s.fillWithNull, .boolean s.fillWithNull, rfl,
      Toml.standsFor_boolText _⟩,
    .ofString "on_malformed" s.onMalformed.name rfl]

namespace Settings

/-- **A settings file has two sections** with an empty line between them. -/
theorem fileText_eq (s : Settings) :
    s.fileText = Toml.sectionText "query" s.query.definitions ++
      ("\n" ++ Toml.sectionText "series" s.series.definitions) := by
  have hquery : "[" ++ "query" ++ "]\n" = "[query]\n" := rfl
  have hseries : "[" ++ "series" ++ "]\n" = "[series]\n" := rfl
  unfold fileText Toml.sectionText QuerySettings.definitions SeriesSettings.definitions
  rw [hquery, hseries]
  cases s.query.defaultLimit? <;>
    simp only [Toml.linesText, Definition.ofString, Definition.ofNat, Option.map_none,
      Option.map_some, Option.toList_none, Option.toList_some, List.cons_append, List.nil_append,
      List.append_nil, List.foldr_cons, List.foldr_nil, String.append_assoc, String.append_empty]

end Settings

/-- **Settings for queries are read back but for the default limit**: where there is none, it is the
usual one. -/
theorem QuerySettings.read_entriesOf (q : QuerySettings) :
    QuerySettings.read Toml.form (.table .header (Toml.entriesOf q.definitions)) =
      some ⟨q.defaultTable.recognized, q.defaultLimit?.or (some 20), q.maxLimit⟩ := by
  have hentries : Toml.entriesOf q.definitions =
      [("default_table", .string q.defaultTable.name)] ++
        (q.defaultLimit?.map fun limit => ("default_limit", .integer limit.toNat)).toList ++
        [("max_limit", .integer q.maxLimit.toNat)] := by
    unfold definitions
    cases q.defaultLimit? <;> rfl
  have hlimit : Form.field (Toml.entriesOf q.definitions) "default_limit"
      (default : QuerySettings).defaultLimit? (Toml.form.nullable Toml.form.uint64) =
        some (q.defaultLimit?.or (some 20)) := by
    rw [hentries]
    cases q.defaultLimit? with
    | none => exact Form.field_eq_default (by simp [List.lookup_cons]) _
    | some limit =>
      refine Form.field_eq_some (d := .integer limit.toNat) (by simp [List.lookup_cons]) ?_ _
      rw [Toml.nullable_form, Toml.uint64_toNat]
      rfl
  have htable : Toml.form.table (.string q.defaultTable.name) = some q.defaultTable.recognized :=
    rfl
  unfold QuerySettings.read
  rw [bind_of_eq_some (Toml.fields_of_forall .header ?names)]
  dsimp only
  rw [bind_of_eq_some (Form.field_eq_some ?table htable _), bind_of_eq_some hlimit,
    bind_of_eq_some (Form.field_eq_some ?max (Toml.uint64_toNat q.maxLimit) _)]
  case names =>
    rw [hentries]
    cases q.defaultLimit? <;> simp [fieldNames]
  case table =>
    rw [hentries]
    simp
  case max =>
    rw [hentries]
    cases q.defaultLimit? <;> simp [List.lookup_cons]
  rfl

/-- **Settings for series are read back.** -/
theorem SeriesSettings.read_entriesOf (s : SeriesSettings) :
    SeriesSettings.read Toml.form (.table .header (Toml.entriesOf s.definitions)) = some s := by
  have hentries : Toml.entriesOf s.definitions =
      [("granularity", .string s.unit.name), ("lookback_days", .integer s.lookbackDays.toNat),
        ("timestamp_field", .string s.timestampField), ("value_field", .string s.valueField),
        ("fill", .real s.fill), ("fill_with_null", .boolean s.fillWithNull),
        ("on_malformed", .string s.onMalformed.name)] := rfl
  have hunit : (Toml.form.choice (.string s.unit.name)).bind CalendarUnit.ofName? = some s.unit :=
    CalendarUnit.ofName?_name s.unit
  have hmalformed : (Toml.form.choice (.string s.onMalformed.name)).bind MalformedRows.ofName? =
      some s.onMalformed := MalformedRows.ofName?_name s.onMalformed
  have hstring (t : String) : Toml.form.string (.string t) = some t := rfl
  have hreal : Toml.form.real (.real s.fill) = some s.fill := rfl
  have hbool : Toml.form.bool (.boolean s.fillWithNull) = some s.fillWithNull := rfl
  unfold SeriesSettings.read
  rw [bind_of_eq_some (Toml.fields_of_forall .header ?names), hentries]
  dsimp only
  rw [bind_of_eq_some (Form.field_choice_eq_some ?unit hunit _),
    bind_of_eq_some (Form.field_eq_some ?lookback (Toml.uint32_toNat s.lookbackDays) _),
    bind_of_eq_some (Form.field_eq_some ?timestamp (hstring s.timestampField) _),
    bind_of_eq_some (Form.field_eq_some ?value (hstring s.valueField) _),
    bind_of_eq_some (Form.field_eq_some ?fill hreal _),
    bind_of_eq_some (Form.field_eq_some ?null hbool _),
    bind_of_eq_some (Form.field_choice_eq_some ?malformed hmalformed _)]
  case names =>
    rw [hentries]
    simp [fieldNames]
  all_goals simp [List.lookup_cons]

namespace Settings

variable {s : Settings}

/-! ## Reading a file -/

/-- **Settings as they come back from their file**: with the known table for a name that is known,
and with the usual default limit if they have none. -/
def completed (s : Settings) : Settings :=
  { s with query := ⟨s.query.defaultTable.recognized, s.query.defaultLimit?.or (some 20),
      s.query.maxLimit⟩ }

/-- The document of a settings file. -/
def document (s : Settings) : Toml.Entries :=
  [("query", .table .header (Toml.entriesOf s.query.definitions)),
    ("series", .table .header (Toml.entriesOf s.series.definitions))]

/-- No name is defined twice for queries. -/
theorem nodup_queryNames (q : QuerySettings) : (q.definitions.map Definition.name).Nodup := by
  unfold QuerySettings.definitions
  cases q.defaultLimit? <;> simp [Definition.ofString, Definition.ofNat]

/-- **The text of a settings file is read as its document.** -/
theorem ofText?_fileText (s : Settings) :
    Toml.ofText? s.fileText = some (.table .header s.document) := by
  have hquery : Toml.Leads (Toml.sectionText "query" s.query.definitions) ⟨[], []⟩
      ⟨[("query", .table .header (Toml.entriesOf s.query.definitions))], ["query"]⟩ :=
    Toml.leads_section [] rfl List.not_mem_nil (nodup_queryNames s.query)
  have hseries : Toml.Leads (Toml.sectionText "series" s.series.definitions)
      ⟨[("query", .table .header (Toml.entriesOf s.query.definitions))], ["query"]⟩
      ⟨s.document, ["series"]⟩ :=
    Toml.leads_section ["query"] rfl (show "series" ∉ ["query"] by decide)
      (show SeriesSettings.fieldNames.Nodup by decide)
  have hleads := hquery.append ((Toml.leads_emptyLine _).append hseries)
  rw [← fileText_eq] at hleads
  refine hleads.ofText?_text fun hmark => ?_
  rw [fileText_eq, Toml.sectionText] at hmark
  simp only [String.toList_append, List.append_assoc] at hmark
  cases hmark

/-- **The document of a settings file is read as the completed settings.** -/
theorem read_document (s : Settings) :
    Settings.read Toml.form (.table .header s.document) = some s.completed := by
  unfold Settings.read
  rw [bind_of_eq_some (Toml.fields_of_forall .header ?names),
    bind_of_eq_some (Form.field_eq_some ?query s.query.read_entriesOf _),
    bind_of_eq_some (Form.field_eq_some ?series s.series.read_entriesOf _)]
  case names => simp [document, fieldNames]
  case query => simp [document]
  case series => simp [document, List.lookup_cons]
  rfl

/-- What a text is in bytes is read as the text. -/
theorem fromUTF8?_toUTF8 (text : String) : String.fromUTF8? text.toUTF8 = some text := by
  unfold String.fromUTF8?
  rw [String.toUTF8_eq_toByteArray, dif_pos text.isValidUTF8]
  rfl

/-- A file with a text in it is read as the text. -/
theorem ofFile_toUTF8 (text : String) : ofFile (.bytes text.toUTF8) = ofFileText text := by
  unfold ofFile
  dsimp only
  rw [fromUTF8?_toUTF8]

/-- **What is read from a settings file.** -/
theorem ofFile_fileText (s : Settings) :
    ofFile (.bytes s.fileText.toUTF8) = s.completed.checked := by
  rw [ofFile_toUTF8]
  unfold ofFileText
  rw [ofText?_fileText, Option.bind_some, read_document]

/-! ## Faults of what is read -/

/-- Settings without a fault are written, where the place of the file takes them. -/
theorem toFile_eq_ok (h : s.fault? = none) : s.toFile true = .ok (.bytes s.fileText.toUTF8) := by
  have hchecked : s.checked = .ok s := by
    unfold checked
    rw [h]
  unfold toFile
  rw [bind_of_eq_ok hchecked]
  rfl

/-- **Completing settings that have no fault** leaves them so, unless the usual default limit is
more than they allow. -/
theorem fault?_completed (h : s.fault? = none) :
    s.completed.fault? =
      (badDefaultLimit? s.completed.query).map (.defaultLimitOutOfRange · s.query.maxLimit) := by
  obtain ⟨hzero, -, hnames, hlookback, hfill⟩ := fault?_eq_none_iff.1 h
  cases hbad : badDefaultLimit? s.completed.query with
  | none => exact fault?_eq_none_iff.2 ⟨hzero, hbad, hnames, hlookback, hfill⟩
  | some limit =>
    unfold fault?
    rw [hbad]
    exact if_neg hzero

/-- A default limit that there is stays in range or out of range. -/
theorem badDefaultLimit?_completed_of_some {limit : UInt64}
    (h : s.query.defaultLimit? = some limit) :
    badDefaultLimit? s.completed.query = badDefaultLimit? s.query := by
  unfold badDefaultLimit? completed
  dsimp only
  rw [h]
  rfl

/-- The usual default limit is out of range if it is more than the greatest one. -/
theorem badDefaultLimit?_completed_of_none (h : s.query.defaultLimit? = none) :
    badDefaultLimit? s.completed.query = if 20 ≤ s.query.maxLimit then none else some 20 := by
  unfold badDefaultLimit? completed isAllowedLimit
  dsimp only
  rw [h, Option.none_or, Option.filter_some]
  by_cases hmax : 20 ≤ s.query.maxLimit
  · rw [decide_eq_true hmax, if_pos hmax]
    rfl
  · rw [decide_eq_false hmax, if_neg hmax]
    rfl

/-- What is read is equal to what was written, if it has the default limit that was written. -/
theorem equal_completed (h : s.fault? = none) :
    s.completed.equal s = (s.query.defaultLimit?.or (some 20) == s.query.defaultLimit?) := by
  have hfill : s.series.fill.equal s.series.fill = true := by
    obtain ⟨-, -, -, -, hfinite⟩ := fault?_eq_none_iff.1 h
    cases hx : s.series.fill with
    | finite x =>
      show (x == x || _) = true
      rw [beq_self_eq_true, Bool.true_or]
    | infinite negative =>
      rw [hx] at hfinite
      cases hfinite
    | nan =>
      rw [hx] at hfinite
      cases hfinite
  unfold equal QuerySettings.equal SeriesSettings.equal completed
  simp only [Table.equal_recognized, beq_self_eq_true, hfill, Bool.and_true, Bool.true_and]

/-- **Settings that are saved are read back, unless they have no default limit.** Settings without
a fault are written. If they have a default limit, what is read from the file is equal to them. If
they have none, they come back with the usual one of 20, or not at all if 20 is more than they
allow. -/
theorem ofFile_toFile (h : s.fault? = none) :
    ∃ file, s.toFile true = .ok file ∧
      (∀ limit, s.query.defaultLimit? = some limit →
        ∃ r, ofFile file = .ok r ∧ r.equal s = true) ∧
      (s.query.defaultLimit? = none → 20 ≤ s.query.maxLimit →
        ∃ r, ofFile file = .ok r ∧ r.query.defaultLimit? = some 20 ∧ r.equal s = false) ∧
      (s.query.defaultLimit? = none → s.query.maxLimit < 20 →
        ofFile file = .error (.faulty (.defaultLimitOutOfRange 20 s.query.maxLimit))) := by
  have hread := ofFile_fileText s
  have hfault := fault?_completed h
  have hequal := equal_completed h
  unfold checked at hread
  refine ⟨_, toFile_eq_ok h, fun limit hlimit => ?_, fun hlimit hmax => ?_, fun hlimit hmax => ?_⟩
  · have hbad := (fault?_eq_none_iff.1 h).2.1
    rw [hfault, badDefaultLimit?_completed_of_some hlimit, hbad] at hread
    rw [hlimit] at hequal
    exact ⟨s.completed, hread, hequal.trans (beq_self_eq_true _)⟩
  · have husual : s.completed.query.defaultLimit? = some 20 := by
      unfold completed
      rw [hlimit]
      rfl
    rw [hfault, badDefaultLimit?_completed_of_none hlimit, if_pos hmax] at hread
    rw [hlimit] at hequal
    exact ⟨s.completed, hread, husual, hequal⟩
  · rw [hfault, badDefaultLimit?_completed_of_none hlimit, if_neg (UInt64.not_le.2 hmax)] at hread
    exact hread

/-- Settings that are far from the usual ones: a table of their own, one row at most, and names and
numbers that call for every way of writing. -/
def awkward : Settings where
  query := ⟨.custom "it's \"raw\"", some 1, 0x7FFFFFFFFFFFFFFF⟩
  series := ⟨.minute, 0, "a\\b\n\x01", "'", .finite ⟨true, 1, by decide⟩, true, .abort⟩

/-- The awkward settings are read back from the file they are saved in. -/
theorem ofFile_toFile_awkward :
    awkward.fault? = none ∧ ∃ file, awkward.toFile true = .ok file ∧
      ∃ r, ofFile file = .ok r ∧ r.equal awkward = true := by
  have h : awkward.fault? = none := by decide
  obtain ⟨file, hfile, hread, -⟩ := ofFile_toFile h
  exact ⟨h, file, hfile, hread 1 rfl⟩

/-- The usual settings without their default limit. -/
def unlimited : Settings :=
  { (default : Settings) with query := { (default : QuerySettings) with defaultLimit? := none } }

/-- **Settings without a default limit do not come back** from the file they are saved in. -/
theorem unlimited_not_read_back :
    unlimited.fault? = none ∧ ∃ file r, unlimited.toFile true = .ok file ∧ ofFile file = .ok r ∧
      r.equal unlimited = false := by
  have h : unlimited.fault? = none := by decide
  have hread : ofFile (.bytes unlimited.fileText.toUTF8) = .ok unlimited.completed := by
    rw [ofFile_fileText]
    rfl
  exact ⟨h, _, _, toFile_eq_ok h, hread, rfl⟩

end Settings

end ChartData
