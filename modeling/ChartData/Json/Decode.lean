import ChartData.Json.Text
import ChartData.Error

/-!
# Reading structures out of data

A `Decoder` reads a structure out of a value. It is told how many levels of arrays and objects it
may still enter, and fails where it would have to go deeper: data from outside are read with a bound
on their nesting, so that no text can make a reader go arbitrarily deep. What is not read is not
counted – an entry under a name that the structure does not have is passed over, however deep it
is.

A structure with named fields is written as an object or, the names left out, as the array of its
fields in their order (`fields`). A field that the object does not have, or that the array is too
short for, takes its default; without one it is missed.
-/

namespace ChartData

/-- Why a value does not decode. -/
inductive DecodeError where
  /-- The value is not of the wanted shape, or nests too deep. -/
  | shape
  /-- The value has the wanted shape and describes something the library refuses. -/
  | refused (cause : Error)
deriving DecidableEq, Repr

/-- **A reader of structures**: the levels it may still enter, and the value. -/
abbrev Decoder (α : Type) := Nat → Json → Except DecodeError α

/-- **The greatest nesting of data from outside.** -/
def nestingLimit : Nat := 127

namespace Decode

variable {α : Type}

/-- The value, where there is one. -/
def wanted : Option α → Except DecodeError α
  | some a => .ok a
  | none => .error .shape

/-- A string. -/
def string : Decoder String := fun _ j => wanted j.string?

/-- A truth value. -/
def bool : Decoder Bool
  | _, .bool b => .ok b
  | _, _ => .error .shape

/-- An unsigned integer of 64 bits. -/
def uint64 : Decoder UInt64
  | _, .number n => wanted n.toUInt64?
  | _, _ => .error .shape

/-- An unsigned integer of 32 bits. -/
def uint32 : Decoder UInt32
  | _, .number n =>
    wanted ((n.toUInt64?.filter (·.toNat < UInt32.size)).map fun n => UInt32.ofNat n.toNat)
  | _, _ => .error .shape

/-- A number of either kind, as a floating-point number. -/
def real : Decoder Binary64
  | _, .number n => .ok n.toBinary64
  | _, _ => .error .shape

/-- Something, or null for nothing. -/
def nullable (d : Decoder α) : Decoder (Option α)
  | _, .null => .ok none
  | levels, j => (d levels j).map some

/-- **A list**, all of whose items decode. -/
def list (d : Decoder α) : Decoder (List α)
  | levels + 1, .array items => items.mapM (d levels)
  | _, _ => .error .shape

/-- **One of a few names**: the name itself, or an object with that name alone and null under
it. -/
def choice (ofName? : String → Option α) : Decoder α
  | _, .string name => wanted (ofName? name)
  | _ + 1, .object [(name, .null)] => wanted (ofName? name)
  | _, _ => .error .shape

/-- The fields of a structure that were written, and the levels that are left inside it. -/
structure Fields where
  /-- The levels that the values of the fields may still enter. -/
  levels : Nat
  /-- The fields that were written, under their names. -/
  written : List (String × Json)

/-- **The written fields of a structure**, given the names of all its fields in order. An object
may have other entries, which are passed over, but no field twice; an array may be too short, but
not too long. -/
def fields (names : List String) : Decoder Fields
  | levels + 1, .object entries =>
    let known := entries.filter (names.contains ·.1)
    if (known.map (·.1)).Nodup then .ok ⟨levels, known⟩ else .error .shape
  | levels + 1, .array items =>
    if items.length ≤ names.length then .ok ⟨levels, names.zip items⟩ else .error .shape
  | _, _ => .error .shape

/-- A field that has to be written. -/
def Fields.required (f : Fields) (name : String) (d : Decoder α) : Except DecodeError α :=
  match f.written.lookup name with
  | some j => d f.levels j
  | none => .error .shape

/-- A field with a default. -/
def Fields.orElse (f : Fields) (name : String) (default : α) (d : Decoder α) :
    Except DecodeError α :=
  match f.written.lookup name with
  | some j => d f.levels j
  | none => .ok default

/-- A field that may be absent or null. -/
def Fields.optional (f : Fields) (name : String) (d : Decoder α) :
    Except DecodeError (Option α) :=
  f.orElse name none (nullable d)

end Decode

/-- **A structure out of a value**, whatever its nesting. -/
def Decoder.ofJson {α : Type} (d : Decoder α) (j : Json) : Except DecodeError α := d j.depth j

/-- **A structure out of a text** from outside, nested no deeper than the limit. -/
def Decoder.ofText {α : Type} (d : Decoder α) (text : String) : Except DecodeError α :=
  (Decode.wanted (Json.ofText? text)).bind (d nestingLimit)

/-- The entries of an object for fields that are left out when there is nothing to write. -/
def Json.entryOf? (name : String) (value : Option Json) : List (String × Json) :=
  (value.map fun j => [(name, j)]).getD []

end ChartData
