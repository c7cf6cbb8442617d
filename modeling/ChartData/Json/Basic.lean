import ChartData.Number.Binary64

/-!
# Data values

The values that queries, filters, rows and reports are exchanged as. A number is an integer or a
finite floating-point number, and which of the two it is stays visible: `1` and `1.0` are different
values. Integers are those of 64 bits, signed or unsigned; the type carries the bounds, so a larger
integer has to become a floating-point number before it can be a value.

An object is the list of its entries in the order they were written, names repeated if they were
repeated. A reader that wants one entry per name says what to do with repetitions
(`Json.lastEntries`).

`unreadable` is a leaf that a text can contain and no value can be: a number beyond every
floating-point number, a string with half a surrogate pair. A text with such a leaf is well formed,
and a reader that has no use for the leaf passes over it; one that wants it fails.
-/

namespace ChartData

/-- **A number in data**: an integer of 64 bits or a finite floating-point number. -/
inductive JsonNumber where
  /-- An integer of 64 bits, signed or unsigned. -/
  | integer (value : Int) (bounds : -0x8000000000000000 ≤ value ∧ value < 0x10000000000000000)
  /-- A floating-point number. -/
  | real (value : Finite64)
deriving DecidableEq

namespace JsonNumber

/-- An unsigned integer of 64 bits as a number. -/
def ofUInt64 (n : UInt64) : JsonNumber :=
  integer n.toNat ⟨by omega, by have := n.toNat_lt; omega⟩

/-- The unsigned integer that the number is, if it is one. -/
def toUInt64? : JsonNumber → Option UInt64
  | integer n _ => if 0 ≤ n then some (UInt64.ofNat n.toNat) else none
  | real _ => none

/-- Reading back an unsigned integer. -/
@[simp] theorem toUInt64?_ofUInt64 (n : UInt64) : (ofUInt64 n).toUInt64? = some n := by
  simp [ofUInt64, toUInt64?]

/-- The integer with the given value, where it fits. -/
def ofInt (n : Int) : Option JsonNumber :=
  if h : -0x8000000000000000 ≤ n ∧ n < 0x10000000000000000 then some (integer n h) else none

/-- The number as a floating-point number. -/
def toBinary64 : JsonNumber → Binary64
  | integer n _ => Binary64.ofInt n
  | real x => .finite x

/-- **Numerical equality within a kind**: an integer equals an integer, a floating-point number
equals a floating-point number, and the two zeros are equal. -/
def equal : JsonNumber → JsonNumber → Bool
  | integer m _, integer n _ => m == n
  | real x, real y => x.equal y
  | _, _ => false

end JsonNumber

/-- **A data value.** -/
inductive Json where
  /-- The absent value. -/
  | null
  /-- A truth value. -/
  | bool (value : Bool)
  /-- A number. -/
  | number (value : JsonNumber)
  /-- A string. -/
  | string (value : String)
  /-- A list of values. -/
  | array (items : List Json)
  /-- Named values, in the order they were written. -/
  | object (entries : List (String × Json))
  /-- A well-formed leaf of a text that stands for no value. -/
  | unreadable

namespace Json

instance : Inhabited Json := ⟨null⟩

mutual

/-- **How deep arrays and objects nest**: zero for a leaf. -/
def depth : Json → Nat
  | array items => itemsDepth items + 1
  | object entries => entriesDepth entries + 1
  | _ => 0

/-- The depth of the deepest item. -/
def itemsDepth : List Json → Nat
  | [] => 0
  | item :: rest => max (depth item) (itemsDepth rest)

/-- The depth of the deepest entry. -/
def entriesDepth : List (String × Json) → Nat
  | [] => 0
  | (_, value) :: rest => max (depth value) (entriesDepth rest)

end

mutual

/-- The value with one entry for each name in every object: the last one written. -/
def lastEntries : Json → Json
  | array items => array (lastEntriesOfItems items)
  | object entries => object (lastEntriesOfEntries entries)
  | value => value

/-- Each item with one entry for each name. -/
def lastEntriesOfItems : List Json → List Json
  | [] => []
  | item :: rest => lastEntries item :: lastEntriesOfItems rest

/-- The entries that no later entry of the same name replaces. -/
def lastEntriesOfEntries : List (String × Json) → List (String × Json)
  | [] => []
  | (name, value) :: rest =>
    if rest.any (·.1 == name) then lastEntriesOfEntries rest
    else (name, lastEntries value) :: lastEntriesOfEntries rest

end

/-- **The entry of an object under a name**, the first if there are several; nothing for a value
that is no object. -/
def entry? (name : String) : Json → Option Json
  | object entries => (entries.find? (·.1 == name)).map (·.2)
  | _ => none

/-- The string that the value is, if it is one. -/
def string? : Json → Option String
  | string s => some s
  | _ => none

/-- A natural number as a value; the counts of a report are far below the bound. -/
def ofNat (n : Nat) : Json :=
  match JsonNumber.ofInt n with
  | some value => .number value
  | none => null

/-- **A floating-point number as a value**: what is not finite has no form in data and is null. -/
def ofBinary64 : Binary64 → Json
  | .finite x => number (.real x)
  | _ => null

/-- A string or nothing as a value. -/
def ofString? (s : Option String) : Json := (s.map string).getD null

end Json

end ChartData
