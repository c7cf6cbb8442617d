import ChartData.Proofs.SettingsText
import Mathlib.Logic.Function.Iterate

/-!
# Settings that were read

Settings that are saved do not always come back as they were: a default limit may be absent, and
absence cannot be written (`Settings.ofFile_toFile`). Settings that were read are different.
Whatever the file leaves out, what is read has a default limit, because the usual one stands in for
it; it has no custom table with a known name, because a name is always looked up; and it has no
fault, because settings with a fault are not accepted. Such settings are what saving and reading
makes of settings (`Settings.completed`), so saving and reading them again changes nothing, however
often it is done (`Settings.read_once_stays`).

So only the first reading of a file has any effect, and it does not matter which keys the file has,
in which of the two tables, or whether there is a file at all.
-/

namespace ChartData

/-! ## What reading yields -/

namespace Form

variable {α δ : Type} {written : List (String × δ)} {name : String} {default a : α}
  {read : δ → Option α}

/-- **A field has its default or what is read from something.** -/
theorem field_cases (h : field written name default read = some a) :
    a = default ∨ ∃ d, read d = some a := by
  unfold field at h
  split at h
  · next d _ => exact .inr ⟨d, h⟩
  · exact .inl (Option.some.inj h).symm

end Form

/-- The table with a name is recognized. -/
theorem Table.recognized_ofName (name : String) : (ofName name).recognized = ofName name := by
  unfold recognized
  rw [name_ofName]

/-- **Settings for queries that were read have a recognized table and a default limit**, whether
these were written or not. -/
theorem QuerySettings.of_read {t : Toml} {q : QuerySettings} (h : read Toml.form t = some q) :
    q.defaultTable.recognized = q.defaultTable ∧ q.defaultLimit?.isSome := by
  unfold read at h
  obtain ⟨written, -, h⟩ := Option.bind_eq_some_iff.mp h
  obtain ⟨table, htable, h⟩ := Option.bind_eq_some_iff.mp h
  obtain ⟨limit?, hlimit, h⟩ := Option.bind_eq_some_iff.mp h
  obtain ⟨max, -, h⟩ := Option.bind_eq_some_iff.mp h
  obtain rfl := Option.some.inj h
  constructor
  · rcases Form.field_cases htable with rfl | ⟨d, hd⟩
    · rfl
    · obtain ⟨name, -, rfl⟩ := Option.map_eq_some_iff.mp hd
      exact Table.recognized_ofName name
  · rcases Form.field_cases hlimit with rfl | ⟨d, hd⟩
    · rfl
    · rw [Toml.nullable_form] at hd
      obtain ⟨limit, -, rfl⟩ := Option.map_eq_some_iff.mp hd
      rfl

namespace Settings

variable {s : Settings} {file : FileContent}

/-- **Settings are complete** if there is nothing to complete. -/
theorem completed_eq_self (htable : s.query.defaultTable.recognized = s.query.defaultTable)
    (hlimit : s.query.defaultLimit?.isSome) : s.completed = s := by
  obtain ⟨limit, hlimit⟩ := Option.isSome_iff_exists.mp hlimit
  unfold completed
  rw [htable, hlimit, Option.some_or, ← hlimit]

/-- What is read of a document is complete, whichever fields it has. -/
theorem completed_of_read {t : Toml} (h : read Toml.form t = some s) : s.completed = s := by
  unfold read at h
  obtain ⟨written, -, h⟩ := Option.bind_eq_some_iff.mp h
  obtain ⟨query, hquery, h⟩ := Option.bind_eq_some_iff.mp h
  obtain ⟨series, -, h⟩ := Option.bind_eq_some_iff.mp h
  obtain rfl := Option.some.inj h
  rcases Form.field_cases hquery with rfl | ⟨d, hd⟩
  · exact completed_eq_self rfl rfl
  · obtain ⟨htable, hlimit⟩ := QuerySettings.of_read hd
    exact completed_eq_self htable hlimit

/-- Settings pass the check as they are, and they pass it if they have no fault. -/
theorem checked_eq_ok_iff {r : Settings} : s.checked = .ok r ↔ s = r ∧ s.fault? = none := by
  unfold checked
  cases s.fault? with
  | none => simp
  | some fault => simp

/-- **Settings that were read are complete and have no fault.** -/
theorem of_ofFile (h : ofFile file = .ok s) : s.completed = s ∧ s.fault? = none := by
  unfold ofFile at h
  split at h
  · obtain rfl := Except.ok.inj h
    exact ⟨rfl, rfl⟩
  · cases h
  · split at h
    · unfold ofFileText at h
      split at h
      · next read hread =>
        obtain ⟨rfl, hfault⟩ := checked_eq_ok_iff.mp h
        obtain ⟨t, -, ht⟩ := Option.bind_eq_some_iff.mp hread
        exact ⟨completed_of_read ht, hfault⟩
      · cases h
    · cases h

/-! ## Saving and reading again -/

/-- Complete settings without a fault are read from the file they are saved in. -/
theorem ofFile_fileText_of_completed (hcomplete : s.completed = s) (h : s.fault? = none) :
    ofFile (.bytes s.fileText.toUTF8) = .ok s := by
  rw [ofFile_fileText, hcomplete]
  exact checked_eq_ok_iff.mpr ⟨rfl, h⟩

/-- **Settings saved and read again.** -/
def resaved (s : Settings) : Except SettingsError Settings := do
  let file ← s.toFile true
  ofFile file

/-- Complete settings without a fault are what saving and reading makes of them. -/
theorem resaved_eq_self (hcomplete : s.completed = s) (h : s.fault? = none) :
    s.resaved = .ok s := by
  unfold resaved
  rw [bind_of_eq_ok (toFile_eq_ok h)]
  exact ofFile_fileText_of_completed hcomplete h

/-- **What was read once stays.** Settings that were read from a file, whatever it has or leaves
out, have no fault, so they can be saved. What is then read is equal to them, and indeed the same,
so they are still there after saving and reading them any number of times. -/
theorem read_once_stays (h : ofFile file = .ok s) :
    s.fault? = none ∧
      (∃ saved, s.toFile true = .ok saved ∧ ofFile saved = .ok s ∧ s.equal s = true) ∧
      ∀ n : Nat, (· >>= resaved)^[n] (ofFile file) = .ok s := by
  obtain ⟨hcomplete, hfault⟩ := of_ofFile h
  have hread := ofFile_fileText_of_completed hcomplete hfault
  have hlimit : s.query.defaultLimit?.or (some 20) = s.query.defaultLimit? :=
    congrArg (·.query.defaultLimit?) hcomplete
  have hequal := equal_completed hfault
  rw [hcomplete, hlimit, beq_self_eq_true] at hequal
  refine ⟨hfault, ⟨_, toFile_eq_ok hfault, hread, hequal⟩, fun n => ?_⟩
  rw [h]
  exact Function.iterate_fixed (resaved_eq_self hcomplete hfault) n

/-- A file that leaves most fields out, has its tables the other way round, and gives a whole number
for the fill. -/
def briefText : String :=
  "[series]\ngranularity = \"minute\"\nfill = 3\n\n[query]\nmax_limit = 50\n"

/-- What is read from a brief file. -/
def brief : Settings where
  query := { (default : QuerySettings) with maxLimit := 50 }
  series := { (default : SeriesSettings) with unit := .minute, fill := .ofInt 3 }

/-- The brief file is read as its two tables. -/
theorem ofText?_briefText :
    Toml.ofText? briefText = some (.table .header
      [("series", .table .header [("granularity", .string "minute"), ("fill", .integer 3)]),
        ("query", .table .header [("max_limit", .integer 50)])]) := by
  let series : List Toml.Definition :=
    [.ofString "granularity" "minute" rfl, .ofNat "fill" 3 rfl (by decide)]
  let query : List Toml.Definition := [.ofNat "max_limit" 50 rfl (by decide)]
  have htext : briefText = Toml.sectionText "series" series ++
      ("\n" ++ Toml.sectionText "query" query) := rfl
  have hseries : Toml.Leads (Toml.sectionText "series" series) ⟨[], []⟩
      ⟨[("series", .table .header (Toml.entriesOf series))], ["series"]⟩ :=
    Toml.leads_section [] rfl List.not_mem_nil (by decide)
  have hquery : Toml.Leads (Toml.sectionText "query" query)
      ⟨[("series", .table .header (Toml.entriesOf series))], ["series"]⟩
      ⟨[("series", .table .header (Toml.entriesOf series)),
        ("query", .table .header (Toml.entriesOf query))], ["query"]⟩ :=
    Toml.leads_section ["series"] rfl (by decide) (by decide)
  have hleads := hseries.append ((Toml.leads_emptyLine _).append hquery)
  rw [← htext] at hleads
  exact hleads.ofText?_text fun hmark => by cases hmark

/-- Settings from such a file stay as they were read. -/
theorem read_once_stays_brief :
    ofFile (.bytes briefText.toUTF8) = .ok brief ∧
      brief.fault? = none ∧
      (∃ saved, brief.toFile true = .ok saved ∧ ofFile saved = .ok brief ∧
        brief.equal brief = true) ∧
      ∀ n : Nat, (· >>= resaved)^[n] (ofFile (.bytes briefText.toUTF8)) = .ok brief := by
  have hread : ofFile (.bytes briefText.toUTF8) = .ok brief := by
    rw [ofFile_toUTF8]
    unfold ofFileText
    rw [ofText?_briefText]
    rfl
  exact ⟨hread, read_once_stays hread⟩

end Settings

end ChartData
