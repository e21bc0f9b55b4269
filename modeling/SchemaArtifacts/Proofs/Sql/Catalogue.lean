import SchemaArtifacts.Sql.Statement

/-!
# Executing statements

What statements do to the names of the tables that exist, and what holds of every statement of a
list at the moment at which it is executed.
-/

namespace SchemaArtifacts.Sql

abbrev Catalogue := List String

namespace Statement

def execute (catalogue : Catalogue) : Statement → Catalogue
  | dropTable table _ => catalogue.filter (· != table)
  | createTable table _ _ _ => if table ∈ catalogue then catalogue else table :: catalogue
  | commentOn _ _ _ => catalogue
  | createIndex _ _ _ _ _ => catalogue
  | addReference _ _ _ => catalogue
  | enableRowSecurity _ => catalogue
  | createPolicy _ _ _ => catalogue

def created? : Statement → Option String
  | createTable table _ _ _ => some table
  | _ => none

def creates (statement : Statement) : Bool := statement.created?.isSome

def altered? : Statement → Option String
  | dropTable _ _ => none
  | createTable _ _ _ _ => none
  | commentOn table _ _ => some table
  | createIndex _ _ table _ _ => some table
  | addReference table _ _ => some table
  | enableRowSecurity table => some table
  | createPolicy _ table _ => some table

def addedReference? : Statement → Option Reference
  | addReference _ _ reference => some reference
  | _ => none

def inlineReferences : Statement → List Reference
  | createTable _ _ _ references => references
  | _ => []

def CreatesAbsent (catalogue : Catalogue) (statement : Statement) : Prop :=
  ∀ table, statement.created? = some table → table ∉ catalogue

def AltersPresent (catalogue : Catalogue) (statement : Statement) : Prop :=
  ∀ table, statement.altered? = some table → table ∈ catalogue

/-- An added foreign key refers to a table that exists, if to one of the given names. -/
def AddsToPresent (names : List String) (catalogue : Catalogue) (statement : Statement) : Prop :=
  ∀ reference, statement.addedReference? = some reference →
    reference.key.table ∈ names → reference.key.table ∈ catalogue

/--
A foreign key inside of a table definition refers to the table itself or to one that exists, if to
one of the given names.
-/
def InlinesPresent (names : List String) (catalogue : Catalogue) (statement : Statement) : Prop :=
  ∀ table, statement.created? = some table → ∀ reference ∈ statement.inlineReferences,
    reference.key.table ∈ names → reference.key.table = table ∨ reference.key.table ∈ catalogue

end Statement

def executeAll (catalogue : Catalogue) (statements : List Statement) : Catalogue :=
  statements.foldl Statement.execute catalogue

theorem executeAll_append (catalogue : Catalogue) (first second : List Statement) :
    executeAll catalogue (first ++ second) = executeAll (executeAll catalogue first) second :=
  List.foldl_append

/-- What holds of every statement of a list at the catalogue that those before it leave. -/
def Throughout (holds : Catalogue → Statement → Prop) : Catalogue → List Statement → Prop
  | _, [] => True
  | catalogue, statement :: rest =>
      holds catalogue statement ∧ Throughout holds (statement.execute catalogue) rest

theorem throughout_append {holds : Catalogue → Statement → Prop} {catalogue : Catalogue}
    {first second : List Statement} :
    Throughout holds catalogue (first ++ second) ↔
      Throughout holds catalogue first ∧ Throughout holds (executeAll catalogue first) second := by
  induction first generalizing catalogue with
  | nil => simp [Throughout, executeAll]
  | cons statement rest ih =>
      simp only [List.cons_append, Throughout, ih, executeAll, List.foldl_cons, and_assoc]

def Keeps (catalogue : Catalogue) (statements : List Statement) : Prop :=
  ∀ statement ∈ statements, statement.execute catalogue = catalogue

theorem Keeps.executeAll_eq {catalogue : Catalogue} {statements : List Statement}
    (keeps : Keeps catalogue statements) : executeAll catalogue statements = catalogue := by
  induction statements with
  | nil => rfl
  | cons statement rest ih =>
      have kept := keeps statement List.mem_cons_self
      rw [executeAll, List.foldl_cons, kept]
      exact ih fun other mem => keeps other (List.mem_cons_of_mem _ mem)

theorem Keeps.throughout {holds : Catalogue → Statement → Prop} {catalogue : Catalogue}
    {statements : List Statement} (keeps : Keeps catalogue statements)
    (all : ∀ statement ∈ statements, holds catalogue statement) :
    Throughout holds catalogue statements := by
  induction statements with
  | nil => trivial
  | cons statement rest ih =>
      refine ⟨all statement List.mem_cons_self, ?_⟩
      rw [keeps statement List.mem_cons_self]
      exact ih (fun other mem => keeps other (List.mem_cons_of_mem _ mem))
        (fun other mem => all other (List.mem_cons_of_mem _ mem))

theorem keeps_of_altered? {catalogue : Catalogue} {statements : List Statement}
    (altered : ∀ statement ∈ statements, statement.altered? ≠ none) :
    Keeps catalogue statements := by
  intro statement mem
  have some := altered statement mem
  cases statement with
  | dropTable => exact absurd rfl some
  | createTable => exact absurd rfl some
  | _ => rfl

end SchemaArtifacts.Sql
