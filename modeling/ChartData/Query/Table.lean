import ChartData.Json.Decode

/-!
# Tables

A query reads from a table, named. Nine tables are known to the store; any other name is a custom
one. The known ones are told apart from a custom name of the same spelling only by the type: two
tables are the same table when their names are the same (`Table.equal`), and reading a known name
always yields the known table.
-/

namespace ChartData

/-- **The tables that the store knows.** -/
inductive KnownTable where
  /-- Queries typed into a search box. -/
  | searchQueries
  /-- Questions answered from documents. -/
  | ragQueries
  /-- Recommendations made. -/
  | recommendations
  /-- Events of any kind. -/
  | events
  /-- Topics found by clustering. -/
  | clusterTopics
  /-- Which search belongs to which cluster. -/
  | searchClusterMemberships
  /-- Topics of conversations. -/
  | topics
  /-- Experiments. -/
  | experiments
  /-- Who takes part in which experiment. -/
  | experimentUserAssignments
deriving DecidableEq, Repr

namespace KnownTable

/-- All known tables. -/
def all : List KnownTable :=
  [searchQueries, ragQueries, recommendations, events, clusterTopics, searchClusterMemberships,
    topics, experiments, experimentUserAssignments]

/-- The name of a known table. -/
def name : KnownTable → String
  | searchQueries => "search_queries"
  | ragQueries => "rag_queries"
  | recommendations => "recommendations"
  | events => "events"
  | clusterTopics => "cluster_topics"
  | searchClusterMemberships => "search_cluster_memberships"
  | topics => "topics"
  | experiments => "experiments"
  | experimentUserAssignments => "experiment_user_assignments"

/-- The known table with a name. -/
def ofName? (name : String) : Option KnownTable := all.find? (·.name == name)

/-- A name names the known table it is the name of. -/
@[simp] theorem ofName?_name (t : KnownTable) : ofName? t.name = some t := by
  cases t <;> rfl

end KnownTable

/-- **A table to read from.** -/
inductive Table where
  /-- A table that the store knows. -/
  | known (table : KnownTable)
  /-- A table of any name. -/
  | custom (name : String)
deriving DecidableEq, Repr

namespace Table

/-- Events are read unless told otherwise. -/
instance : Inhabited Table := ⟨known .events⟩

/-- **The name of a table.** -/
def name : Table → String
  | known t => t.name
  | custom name => name

/-- **The table with a name**: the known one, if there is one. -/
def ofName (name : String) : Table :=
  match KnownTable.ofName? name with
  | some t => known t
  | none => custom name

/-- The table with a name has the name. -/
@[simp] theorem name_ofName (s : String) : (ofName s).name = s := by
  unfold ofName
  split
  · next t h => simpa [Table.name] using List.find?_some h
  · rfl

/-- Whether the table is written as a custom one. -/
def isCustom : Table → Bool
  | known _ => false
  | custom _ => true

/-- **Sameness of tables**: by name. -/
def equal (a b : Table) : Bool := a.name == b.name

/-- A table as a data value. -/
def toJson (t : Table) : Json := .string t.name

/-- A table out of a data value: a name, or an object with a known name alone and null under
it. -/
def decode : Decoder Table
  | _, .string name => .ok (ofName name)
  | _ + 1, .object [(name, .null)] => (Decode.wanted (KnownTable.ofName? name)).map known
  | _, _ => .error .shape

end Table

end ChartData
