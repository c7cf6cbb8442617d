import ChartData.Json.Decode

/-!
# Literals

What a column is compared with: the absent value, a truth value, a number, a string, or a list of
literals. These are the data values without objects, and `Literal.ofJson?` is defined exactly on
them. A number keeps its kind, so the identifier `1` does not turn into `1.0` on the way to the
store and back.
-/

namespace ChartData

/-- **A literal.** -/
inductive Literal where
  /-- The absent value. -/
  | null
  /-- A truth value. -/
  | boolean (value : Bool)
  /-- A number. -/
  | number (value : JsonNumber)
  /-- A string. -/
  | string (value : String)
  /-- A list of literals. -/
  | list (items : List Literal)

namespace Literal

instance : Inhabited Literal := ⟨null⟩

mutual

/-- **A literal as a data value.** -/
def toJson : Literal → Json
  | null => .null
  | boolean b => .bool b
  | number n => .number n
  | string s => .string s
  | list items => .array (itemsToJson items)

/-- The items of a list as data values. -/
def itemsToJson : List Literal → List Json
  | [] => []
  | item :: rest => toJson item :: itemsToJson rest

end

mutual

/-- **A data value as a literal**, unless there is an object in it. -/
def ofJson? : Json → Option Literal
  | .null => some null
  | .bool b => some (boolean b)
  | .number n => some (number n)
  | .string s => some (string s)
  | .array items => (itemsOfJson? items).map list
  | .object _ => none
  | .unreadable => none

/-- The items of an array as literals. -/
def itemsOfJson? : List Json → Option (List Literal)
  | [] => some []
  | item :: rest =>
    match ofJson? item, itemsOfJson? rest with
    | some l, some ls => some (l :: ls)
    | _, _ => none

end

mutual

/-- **Equality of literals**: numbers of a kind are compared by value. -/
def equal : Literal → Literal → Bool
  | null, null => true
  | boolean a, boolean b => a == b
  | number a, number b => a.equal b
  | string a, string b => a == b
  | list as, list bs => equalItems as bs
  | _, _ => false

/-- Equality item by item. -/
def equalItems : List Literal → List Literal → Bool
  | [], [] => true
  | a :: as, b :: bs => equal a b && equalItems as bs
  | _, _ => false

end

/-- A floating-point number as a literal; what is not finite is absent. -/
def ofBinary64 : Binary64 → Literal
  | .finite x => number (.real x)
  | _ => null

/-- An unsigned integer as a literal. -/
def ofUInt64 (n : UInt64) : Literal := number (.ofUInt64 n)

/-- The name of the kind of a literal. -/
def kindName : Literal → String
  | null => "null"
  | boolean _ => "boolean"
  | number _ => "number"
  | string _ => "string"
  | list _ => "array"

/-- A literal out of a data value. -/
def decode : Decoder Literal := fun levels j =>
  if j.depth ≤ levels then Decode.wanted (ofJson? j) else .error .shape

end Literal

end ChartData
