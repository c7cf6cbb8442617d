import ChartData.Number.Shortest
import ChartData.Settings.Form
import ChartData.Toml.Document
import ChartData.Toml.Quoted

/-!
# Settings files

Settings are kept in a file, as a TOML document with a table for queries and one for series
(`Settings.fileText`), and are read back from it (`Settings.ofFile`). A file that is not there means
the settings that hold when nothing is set. Settings with a fault are neither written nor accepted.

There is no way to write that a default limit is absent, so then nothing is written about it.
-/

namespace ChartData

/-- Why settings could not be read or written. -/
inductive SettingsError where
  /-- The place of the file does not give its content, or does not take it. -/
  | inaccessible
  /-- The content is not a document, or not one of settings. -/
  | malformed
  /-- The settings have a fault. -/
  | faulty (fault : SettingsFault)
deriving DecidableEq, Repr

/-- **What is found in the place of a settings file.** -/
inductive FileContent where
  /-- Nothing. -/
  | missing
  /-- Something that has no content to read, such as a directory. -/
  | unreadable
  /-- A file with the given bytes. -/
  | bytes (content : ByteArray)

namespace Settings

/-- Settings without a fault. -/
def checked (s : Settings) : Except SettingsError Settings :=
  match s.fault? with
  | none => .ok s
  | some fault => .error (.faulty fault)

/-- **The settings in the text of a file.** -/
def ofFileText (text : String) : Except SettingsError Settings :=
  match (Toml.ofText? text).bind (Settings.read Toml.form) with
  | some s => s.checked
  | none => .error .malformed

/-- **The settings in a file.** -/
def ofFile : FileContent → Except SettingsError Settings
  | .missing => .ok default
  | .unreadable => .error .inaccessible
  | .bytes content =>
    match String.fromUTF8? content with
    | some text => ofFileText text
    | none => .error .inaccessible

/-- The settings in a file, or those that hold when nothing is set. -/
def ofFileOrDefault (content : FileContent) : Settings := (ofFile content).toOption.getD default

/-! ## Writing -/

/-- **The layout of numbers in a settings file**: always written out. -/
def numberLayout : NumberLayout := ⟨fun _ => true⟩

/-- A number. -/
def realText : Binary64 → String
  | .finite x => String.ofList (x.chars numberLayout)
  | .infinite negative => if negative then "-inf" else "inf"
  | .nan => "nan"

/-- A line that defines a name. -/
def line (name value : String) : String := name ++ " = " ++ value ++ "\n"

/-- A truth value. -/
def boolText (b : Bool) : String := if b then "true" else "false"

/-- **The text of a settings file.** -/
def fileText (s : Settings) : String :=
  "[query]\n" ++ line "default_table" (quotedText s.query.defaultTable.name) ++
    (match s.query.defaultLimit? with
      | some limit => line "default_limit" limit.toNat.repr
      | none => "") ++
    line "max_limit" s.query.maxLimit.toNat.repr ++ "\n" ++
    "[series]\n" ++ line "granularity" (quotedText s.series.unit.name) ++
    line "lookback_days" s.series.lookbackDays.toNat.repr ++
    line "timestamp_field" (quotedText s.series.timestampField) ++
    line "value_field" (quotedText s.series.valueField) ++
    line "fill" (realText s.series.fill) ++
    line "fill_with_null" (boolText s.series.fillWithNull) ++
    line "on_malformed" (quotedText s.series.onMalformed.name)

/-- **What saving settings writes**, given whether the place of the file takes it. -/
def toFile (s : Settings) (accessible : Bool) : Except SettingsError FileContent := do
  let s ← s.checked
  if accessible then return .bytes s.fileText.toUTF8 else throw .inaccessible

/-! ## Where the file is -/

/-- A path continued by a name, with one slash between them. -/
def pathJoin (base name : String) : String :=
  if base = "" then name
  else if base.toList.getLast? = some '/' then base ++ name
  else base ++ "/" ++ name

/-- **The place of the settings file**: under the directory for configuration, which is given or is
the usual one in the home directory. -/
def filePath (configHome? : Option String) (home : String) : String :=
  pathJoin
    (pathJoin (configHome?.getD (pathJoin home ".config")) "analytics-core")
    "config.toml"

/-- **Settings as a data value.** -/
def toJson (s : Settings) : Json :=
  let limit (n : UInt64) : Json := .number (.ofUInt64 n)
  .object
    [("query", .object
      ([("default_table", s.query.defaultTable.toJson)] ++
        Json.entryOf? "default_limit" (s.query.defaultLimit?.map limit) ++
        [("max_limit", limit s.query.maxLimit)])),
      ("series", .object
        [("granularity", .string s.series.unit.name),
          ("lookback_days", .ofNat s.series.lookbackDays.toNat),
          ("timestamp_field", .string s.series.timestampField),
          ("value_field", .string s.series.valueField),
          ("fill", .ofBinary64 s.series.fill),
          ("fill_with_null", .bool s.series.fillWithNull),
          ("on_malformed", .string s.series.onMalformed.name)])]

end Settings

end ChartData
