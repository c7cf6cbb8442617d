import ChartData.Json.Decode
import ChartData.Settings.Basic
import ChartData.Toml.Value

/-!
# Settings out of data

Settings come in two notations, in a settings file and as data, and mean the same in both. What the
notations share is that there are records with named fields, strings, numbers and truth values; a
`Form` says how one of them shows these, and `Settings.read` reads settings in any form. Every field
has a default, and fields with other names are passed over.
-/

namespace ChartData

/-- **How a notation shows what settings are made of.** -/
structure Form (δ : Type) where
  /-- The fields of a record that are written, given the names of all fields in order. -/
  fields : List String → δ → Option (List (String × δ))
  /-- A string. -/
  string : δ → Option String
  /-- An unsigned integer of 64 bits. -/
  uint64 : δ → Option UInt64
  /-- A number. -/
  real : δ → Option Binary64
  /-- A truth value. -/
  bool : δ → Option Bool
  /-- One of a few names. -/
  choice : δ → Option String
  /-- A table to read from. -/
  table : δ → Option Table
  /-- Whether nothing is meant. -/
  isNull : δ → Bool

namespace Form

variable {δ α : Type}

/-- The field with a name among those that are written, or its default. -/
def field (written : List (String × δ)) (name : String) (default : α) (read : δ → Option α) :
    Option α :=
  match written.lookup name with
  | some d => read d
  | none => some default

/-- Something, or nothing where nothing is meant. -/
def nullable (form : Form δ) (read : δ → Option α) (d : δ) : Option (Option α) :=
  if form.isNull d then some none else (read d).map some

/-- An unsigned integer of 32 bits. -/
def uint32 (form : Form δ) (d : δ) : Option UInt32 :=
  ((form.uint64 d).filter (·.toNat < UInt32.size)).map fun n => UInt32.ofNat n.toNat

end Form

/-! ## Reading -/

/-- The names of the fields of the settings for queries. -/
def QuerySettings.fieldNames : List String := ["default_table", "default_limit", "max_limit"]

/-- **Settings for queries in a form.** -/
def QuerySettings.read {δ : Type} (form : Form δ) (d : δ) : Option QuerySettings := do
  let written ← form.fields fieldNames d
  let base : QuerySettings := default
  let defaultTable ← Form.field written "default_table" base.defaultTable form.table
  let defaultLimit? ← Form.field written "default_limit" base.defaultLimit?
    (form.nullable form.uint64)
  let maxLimit ← Form.field written "max_limit" base.maxLimit form.uint64
  return ⟨defaultTable, defaultLimit?, maxLimit⟩

/-- The names of the fields of the settings for series. -/
def SeriesSettings.fieldNames : List String :=
  ["granularity", "lookback_days", "timestamp_field", "value_field", "fill", "fill_with_null",
    "on_malformed"]

/-- **Settings for series in a form.** -/
def SeriesSettings.read {δ : Type} (form : Form δ) (d : δ) : Option SeriesSettings := do
  let written ← form.fields fieldNames d
  let base : SeriesSettings := default
  let unit ← Form.field written "granularity" base.unit fun d =>
    (form.choice d).bind CalendarUnit.ofName?
  let lookbackDays ← Form.field written "lookback_days" base.lookbackDays form.uint32
  let timestampField ← Form.field written "timestamp_field" base.timestampField form.string
  let valueField ← Form.field written "value_field" base.valueField form.string
  let fill ← Form.field written "fill" base.fill form.real
  let fillWithNull ← Form.field written "fill_with_null" base.fillWithNull form.bool
  let onMalformed ← Form.field written "on_malformed" base.onMalformed fun d =>
    (form.choice d).bind MalformedRows.ofName?
  return ⟨unit, lookbackDays, timestampField, valueField, fill, fillWithNull, onMalformed⟩

/-- The names of the fields of all settings. -/
def Settings.fieldNames : List String := ["query", "series"]

/-- **All settings in a form.** -/
def Settings.read {δ : Type} (form : Form δ) (d : δ) : Option Settings := do
  let written ← form.fields fieldNames d
  let query ← Form.field written "query" default (QuerySettings.read form)
  let series ← Form.field written "series" default (SeriesSettings.read form)
  return ⟨query, series⟩

/-! ## The two forms -/

/-- What a decoder yields, its errors forgotten. -/
def Decoder.value? {α : Type} (d : Decoder α) (j : Json) : Option α := (d.ofJson j).toOption

/-- **Settings as data.** -/
def Json.form : Form Json where
  fields names j := ((Decode.fields names).value? j).map (·.written)
  string := Decoder.value? Decode.string
  uint64 := Decoder.value? Decode.uint64
  real := Decoder.value? Decode.real
  bool := Decoder.value? Decode.bool
  choice := Decoder.value? (Decode.choice some)
  table := Decoder.value? Table.decode
  isNull j := match j with
    | .null => true
    | _ => false

namespace Toml

/-- The entries of a table, however it came about. A date counts as a table without any entries
of a known name. -/
def entries? : Toml → Option Entries
  | table _ entries => some entries
  | dateTime => some []
  | _ => none

/-- Whether a value is an array or a table with nothing in it. -/
def isEmpty : Toml → Bool
  | array items => items.isEmpty
  | table _ entries => entries.isEmpty
  | _ => false

/-- The items of an array; those of a list of tables are tables. -/
def items? : Toml → Option (List Toml)
  | array items => some items
  | tables elements => some (elements.map (table .header))
  | _ => none

/-- **The written fields of a record**: a table, or the array of the fields in order. Other entries
of the table are passed over as long as they can be read, and further items of the array whether or
not they can. -/
def fields (names : List String) (t : Toml) : Option Entries :=
  match t.entries? with
  | some entries =>
    let (known, others) := entries.partition (names.contains ·.1)
    if entriesReadable others then some known else none
  | none => t.items?.map names.zip

/-- An unsigned integer of 64 bits. -/
def uint64? : Toml → Option UInt64
  | integer n => if 0 ≤ n ∧ n < 0x10000000000000000 then some (UInt64.ofNat n.toNat) else none
  | _ => none

/-- A number; an integer of 64 bits counts as one. -/
def real? : Toml → Option Binary64
  | real x => some x
  | integer n =>
    if -0x8000000000000000 ≤ n ∧ n < 0x10000000000000000 then some (.ofInt n) else none
  | _ => none

/-- A string. -/
def string? : Toml → Option String
  | string s => some s
  | _ => none

/-- A truth value. -/
def bool? : Toml → Option Bool
  | boolean b => some b
  | _ => none

/-- One of a few names: the name itself, or a table with that name alone and nothing under it. -/
def choice? : Toml → Option String
  | string s => some s
  | table _ [(name, value)] => if value.isEmpty then some name else none
  | _ => none

/-- **Settings in a settings file.** -/
def form : Form Toml where
  fields := fields
  string := string?
  uint64 := uint64?
  real := real?
  bool := bool?
  choice := choice?
  table t := t.string?.map Table.ofName
  isNull _ := false

end Toml

end ChartData
