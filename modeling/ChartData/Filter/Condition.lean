import ChartData.Filter.Literal

/-!
# Conditions

A condition is a comparison of a column with a literal, alone or at the head of a group: with an
*all* group the comparison and every condition of the group have to hold, with an *any* group one of
them. A condition with both kinds of group would be ambiguous and does not exist in this type; the
data that describe one are refused where they are read (`Condition.ofGroups`).

`Condition.nodes` lists a condition and all conditions below it, each before those of its group.

In data a condition is its column, operator and literal and, under a name of its own, its group.
-/

namespace ChartData

/-- **How a column is compared with a literal.** -/
inductive Comparison where
  /-- Equal. -/
  | equal
  /-- Not equal, with an exclamation mark. -/
  | notEqual
  /-- Not equal, with angle brackets. -/
  | lessOrGreater
  /-- Greater. -/
  | greater
  /-- Less. -/
  | less
  /-- Greater or equal. -/
  | greaterOrEqual
  /-- Less or equal. -/
  | lessOrEqual
  /-- Matches a pattern. -/
  | like
  /-- Does not match a pattern. -/
  | notLike
  /-- Is in a list. -/
  | isIn
  /-- Is not in a list. -/
  | notIn
  /-- Is absent. -/
  | isNull
  /-- Is not absent. -/
  | isNotNull
deriving DecidableEq, Repr

namespace Comparison

/-- All comparisons. -/
def all : List Comparison :=
  [equal, notEqual, lessOrGreater, greater, less, greaterOrEqual, lessOrEqual, like, notLike, isIn,
    notIn, isNull, isNotNull]

/-- The name of a comparison in data. -/
def name : Comparison → String
  | equal => "="
  | notEqual => "!="
  | lessOrGreater => "<>"
  | greater => ">"
  | less => "<"
  | greaterOrEqual => ">="
  | lessOrEqual => "<="
  | like => "like"
  | notLike => "not like"
  | isIn => "in"
  | notIn => "not in"
  | isNull => "is null"
  | isNotNull => "is not null"

/-- The spelling of a comparison in a statement. -/
def sql : Comparison → String
  | equal => "="
  | notEqual => "!="
  | lessOrGreater => "<>"
  | greater => ">"
  | less => "<"
  | greaterOrEqual => ">="
  | lessOrEqual => "<="
  | like => "LIKE"
  | notLike => "NOT LIKE"
  | isIn => "IN"
  | notIn => "NOT IN"
  | isNull => "IS NULL"
  | isNotNull => "IS NOT NULL"

/-- The comparison with a name. -/
def ofName? (name : String) : Option Comparison := all.find? (·.name == name)

/-- A name names the comparison it is the name of. -/
@[simp] theorem ofName?_name (c : Comparison) : ofName? c.name = some c := by
  cases c <;> rfl

/-- Whether the comparison takes no literal. -/
def takesNoLiteral : Comparison → Bool
  | isNull | isNotNull => true
  | _ => false

/-- Whether the comparison is with the members of a list. -/
def isMembership : Comparison → Bool
  | isIn | notIn => true
  | _ => false

/-- A comparison out of a data value. -/
def decode : Decoder Comparison := Decode.choice ofName?

end Comparison

/-- **A comparison of a column with a literal.** -/
structure Predicate where
  /-- The column. -/
  column : String
  /-- How it is compared. -/
  comparison : Comparison
  /-- What it is compared with; of no account where the comparison takes no literal. -/
  literal : Literal

namespace Predicate

/-- Equality of predicates, literals compared by value. -/
def equal (p q : Predicate) : Bool :=
  p.column == q.column && p.comparison == q.comparison && p.literal.equal q.literal

end Predicate

/-- **A condition on the rows of a query.** -/
inductive Condition where
  /-- A predicate alone. -/
  | leaf (predicate : Predicate)
  /-- A predicate and every condition of a group. -/
  | all (predicate : Predicate) (group : List Condition)
  /-- A predicate or one condition of a group. -/
  | any (predicate : Predicate) (group : List Condition)

namespace Condition

instance : Inhabited Condition := ⟨leaf ⟨"", .equal, .null⟩⟩

/-- The predicate at the head. -/
def predicate : Condition → Predicate
  | leaf p | all p _ | any p _ => p

/-- The conditions of the group, none for a predicate alone. -/
def group : Condition → List Condition
  | leaf _ => []
  | all _ group | any _ group => group

/-- A comparison of a column with a literal, alone. -/
def compare (column : String) (comparison : Comparison) (literal : Literal) : Condition :=
  leaf ⟨column, comparison, literal⟩

/-- A predicate at the head of a group of a kind. -/
def ofGroup : Quantifier → Predicate → List Condition → Condition
  | .all => all
  | .any => any

/-- **Several conditions as one.** The first lends its predicate – a group of its own is not kept –
and the others are the group. -/
def grouped (quantifier : Quantifier) : List Condition → Except Error Condition
  | [] => .error (.emptyGroup quantifier)
  | first :: others => .ok (ofGroup quantifier first.predicate others)

mutual

/-- **A condition and all below it**, each before those of its group. -/
def nodes : Condition → List Condition
  | leaf p => [leaf p]
  | all p group => all p group :: groupNodes group
  | any p group => any p group :: groupNodes group

/-- The conditions of a group and all below them. -/
def groupNodes : List Condition → List Condition
  | [] => []
  | c :: rest => nodes c ++ groupNodes rest

end

mutual

/-- **Equality of conditions**, literals compared by value. -/
def equal : Condition → Condition → Bool
  | leaf p, leaf q => p.equal q
  | all p cs, all q ds => p.equal q && equalGroups cs ds
  | any p cs, any q ds => p.equal q && equalGroups cs ds
  | _, _ => false

/-- Equality condition by condition. -/
def equalGroups : List Condition → List Condition → Bool
  | [], [] => true
  | c :: cs, d :: ds => equal c d && equalGroups cs ds
  | _, _ => false

end

/-! ## Conditions as data -/

/-- The names of the fields of a condition. -/
def fieldNames : List String := ["column", "operator", "value", "and_filter", "or_filter"]

/-- The entries that every condition has. -/
def predicateEntries (p : Predicate) : List (String × Json) :=
  [("column", .string p.column), ("operator", .string p.comparison.name),
    ("value", p.literal.toJson)]

mutual

/-- **A condition as a data value.** -/
def toJson : Condition → Json
  | leaf p => .object (predicateEntries p)
  | all p group => .object (predicateEntries p ++ [("and_filter", .array (groupToJson group))])
  | any p group => .object (predicateEntries p ++ [("or_filter", .array (groupToJson group))])

/-- The conditions of a group as data values. -/
def groupToJson : List Condition → List Json
  | [] => []
  | c :: rest => toJson c :: groupToJson rest

end

/-- **The condition with a predicate and the groups that are given.** An empty group gives way to
one that is not; two that are not are refused. -/
def ofGroups (p : Predicate) : Option (List Condition) → Option (List Condition) →
    Except DecodeError Condition
  | none, none => .ok (leaf p)
  | some cs, none => .ok (all p cs)
  | none, some cs => .ok (any p cs)
  | some cs, some [] => .ok (all p cs)
  | some [], some cs => .ok (any p cs)
  | some _, some _ => .error (.refused (.mixedGroups p.column))

/-- A condition out of a data value, given how its groups are read. -/
def decodeWith (group : Json → Except DecodeError (List Condition)) : Decoder Condition :=
  fun levels j => do
    let f ← Decode.fields fieldNames levels j
    let column ← f.required "column" Decode.string
    let comparison ← f.required "operator" Comparison.decode
    let literal ← f.orElse "value" .null Literal.decode
    let allGroup ← f.optional "and_filter" fun _ => group
    let anyGroup ← f.optional "or_filter" fun _ => group
    ofGroups ⟨column, comparison, literal⟩ allGroup anyGroup

/-- **A condition out of a data value.** A condition is one level and its group is another. -/
def decode : Decoder Condition
  | 0, _ => .error .shape
  | 1, j => decodeWith (fun _ => .error .shape) 1 j
  | levels + 2, j =>
    decodeWith
      (fun g =>
        match g with
        | .array items => items.mapM (decode levels)
        | _ => .error .shape)
      (levels + 2) j

end Condition

end ChartData
