import SchemaArtifacts.Schema.Basic

/-!
# Dependency order

Tables are ordered so that a table comes after those that it refers to.  The order of the schema
is kept wherever references allow it; where they form a cycle, the first table that is left goes
next.  References to the table itself and to tables outside the schema do not count.
-/

namespace SchemaArtifacts.Schema

def references (names : List String) (table : Table) : List String :=
  (table.fields.filterMap fun field => field.foreignKey.map (·.table)).filter fun name =>
    names.contains name && name != table.name

/-- What must come before the tables of a name: of several such tables, the last one counts. -/
def needs (tables : List Table) (name : String) : List String :=
  match tables.reverse.find? (·.name == name) with
  | some table => references (tables.map (·.name)) table
  | none => []

structure Ordered where
  tables : List Table
  /-- Names of the tables that had to go before a table they refer to. -/
  cyclic : List String
  deriving Repr

def isReady (needs : String → List String) (emitted : List String) (table : Table) : Bool :=
  (needs table.name).all emitted.contains

/-- Takes `count` tables, each time the first ready one or else the first. -/
def orderSteps (needs : String → List String) : Nat → List Table → List String → Ordered
  | 0, _, _ => ⟨[], []⟩
  | _ + 1, [], _ => ⟨[], []⟩
  | count + 1, first :: others, emitted =>
    let remaining := first :: others
    match remaining.find? (isReady needs emitted) with
    | some table =>
      let rest := orderSteps needs count (remaining.erase table) (table.name :: emitted)
      { rest with tables := table :: rest.tables }
    | none =>
      let rest := orderSteps needs count others (first.name :: emitted)
      ⟨first :: rest.tables, first.name :: rest.cyclic⟩

def dependencyOrder (schema : Schema) : Ordered :=
  orderSteps (needs schema.tables) schema.tables.length schema.tables []

def Ordered.notices (ordered : Ordered) : List Notice := ordered.cyclic.map .referenceCycle

end SchemaArtifacts.Schema
