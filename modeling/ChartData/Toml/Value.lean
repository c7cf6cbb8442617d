import ChartData.Number.Binary64

/-!
# Settings files: values and tables

A settings file is a TOML document: a table of named values, some of which are tables again. How a
table came about decides what may still be added to it. A table with a header of its own is written
once; a table that is only on the way to a header may get its header later; a table that dotted keys
have made takes more dotted keys and no header; a table written inline takes nothing more. A list of
tables written with double brackets is open at its last table.

Numbers are converted when they are asked for. A word that is written like a number but is beyond
all that can be represented is a leaf of its own, `Toml.unreadable`: it spoils what is read from it
and nothing else.

`Toml.descend` walks a path of names through a table, making what is missing on the way, and
`Toml.defineUnder`, `Toml.openTable` and `Toml.appendTable` are the three things that a document
does at the end of a path.
-/

namespace ChartData

/-- **How a table came about.** -/
inductive TableOrigin where
  /-- By a header of its own. -/
  | header
  /-- On the way to a header. -/
  | implied
  /-- By dotted keys. -/
  | dotted
  /-- Written inline. -/
  | inlined
deriving DecidableEq, Repr

/-- **A value of a settings file.** -/
inductive Toml where
  /-- A string. -/
  | string (value : String)
  /-- An integer. -/
  | integer (value : Int)
  /-- A floating-point number. -/
  | real (value : Binary64)
  /-- A truth value. -/
  | boolean (value : Bool)
  /-- A date, a time, or both. -/
  | dateTime
  /-- A word that is written like a number and is none that can be represented. -/
  | unreadable
  /-- A list of values. -/
  | array (items : List Toml)
  /-- A table. -/
  | table (origin : TableOrigin) (entries : List (String × Toml))
  /-- A list of tables with headers of their own, the last one open. -/
  | tables (elements : List (List (String × Toml)))

namespace Toml

/-- The entries of a table. -/
abbrev Entries := List (String × Toml)

mutual

/-- **Whether everything in a value can be read.** -/
def isReadable : Toml → Bool
  | unreadable => false
  | array items => allReadable items
  | table _ entries => entriesReadable entries
  | tables elements => elementsReadable elements
  | _ => true

/-- Whether all items can be read. -/
def allReadable : List Toml → Bool
  | [] => true
  | item :: rest => isReadable item && allReadable rest

/-- Whether the values of all entries can be read. -/
def entriesReadable : List (String × Toml) → Bool
  | [] => true
  | (_, value) :: rest => isReadable value && entriesReadable rest

/-- Whether all tables of a list can be read. -/
def elementsReadable : List (List (String × Toml)) → Bool
  | [] => true
  | entries :: rest => entriesReadable entries && elementsReadable rest

end

/-- **The entries with the value under a name changed.** The change is told what is there, if
anything is, and may refuse. -/
def updateEntry (name : String) (change : Option Toml → Option Toml) : Entries → Option Entries
  | [] => (change none).map fun v => [(name, v)]
  | (n, v) :: rest =>
    if n = name then (change (some v)).map fun v => (n, v) :: rest
    else (updateEntry name change rest).map ((n, v) :: ·)

/-- **A change at the end of a path.** Tables on the way that are missing are made, with the given
origin. The way leads through tables and through the last of a list of tables; it ends at a table
written inline and at anything that is no table. Dotted keys do not enter a table that has a header,
and an implied table that they enter counts as made by them. What happens at the end is told how the
table there came about. -/
def descend (made : TableOrigin) (change : TableOrigin → Entries → Option Entries) :
    List String → TableOrigin → Entries → Option Entries
  | [], origin, entries => change origin entries
  | name :: path, _, entries =>
    entries |> updateEntry name fun
      | none => (descend made change path made []).map (table made)
      | some (table origin inner) =>
        if origin = .inlined ∨ (made = .dotted ∧ origin = .header) then none
        else
          let origin := if made = .dotted ∧ origin = .implied then .dotted else origin
          (descend made change path origin inner).map (table origin)
      | some (tables elements) =>
        match elements.getLast? with
        | none => none
        | some last =>
          (descend made change path .header last).map fun last =>
            tables (elements.dropLast ++ [last])
      | some _ => none

/-- A value under a new name. -/
def addNew (name : String) (value : Toml) (entries : Entries) : Option Entries :=
  entries |> updateEntry name fun
    | none => some value
    | some _ => none

/-- **A value under a dotted key.** The tables that the key leads through are made by dotted keys,
all of them. -/
def define (path : List String) (name : String) (value : Toml) (origin : TableOrigin)
    (entries : Entries) : Option Entries :=
  descend .dotted
    (fun found inner =>
      if path.isEmpty ∨ found = .dotted then addNew name value inner else none)
    path origin entries

/-- **A table with a header**, which may so far have been implied, and nothing more. -/
def openTable (path : List String) (name : String) (entries : Entries) : Option Entries :=
  descend .implied
    (fun _ inner =>
      inner |> updateEntry name fun
        | none => some (table .header [])
        | some (table .implied found) => some (table .header found)
        | some _ => none)
    path .header entries

/-- **One more table in a list of tables.** -/
def appendTable (path : List String) (name : String) (entries : Entries) : Option Entries :=
  descend .implied
    (fun _ inner =>
      inner |> updateEntry name fun
        | none => some (tables [[]])
        | some (tables elements) => some (tables (elements ++ [[]]))
        | some _ => none)
    path .header entries

/-- A value under a dotted key in the table with the given header, or in the document itself. -/
def defineUnder (header path : List String) (name : String) (value : Toml) (entries : Entries) :
    Option Entries :=
  descend .implied (define path name value) header .header entries

end Toml

end ChartData
