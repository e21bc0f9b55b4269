import SchemaArtifacts.Fault
import SchemaArtifacts.Text.LetterCase
import SchemaArtifacts.Text.Trim
import SchemaArtifacts.TypeMap

/-!
# Dialects

All that sets the dialects of SQL apart: types, quoting, and the statements that each of them has.
-/

namespace SchemaArtifacts.Sql

open Text

inductive Dialect
  | postgres
  | sqlite
  | mysql
  deriving DecidableEq, Repr

/-- How an index names its access method: before or after the column, or not at all. -/
inductive IndexMethod
  | before (name : String)
  | after (name : String)
  | unnamed
  deriving DecidableEq, Repr

namespace Dialect

def tag : Dialect → String
  | postgres => "postgres"
  | sqlite => "sqlite"
  | mysql => "mysql"

def all : List Dialect := [postgres, sqlite, mysql]

def heading : Dialect → String
  | postgres => "POSTGRES"
  | sqlite => "SQLITE"
  | mysql => "MYSQL"

def synonyms : List (String × Dialect) :=
  [("postgresql", postgres), ("pg", postgres), ("supabase", postgres), ("sqlite3", sqlite),
   ("mariadb", mysql)]

def ofText? (s : String) : Option Dialect :=
  let key := lower (trim s)
  (all.find? (·.tag == key)).or (synonyms.lookup key)

def ofJson (value : Json) : Except Fault Dialect :=
  match value with
  | .str s =>
    match ofText? s with
    | some dialect => .ok dialect
    | none => .error (.generator (.unsupportedDialect value))
  | value => .error (.generator (.unsupportedDialect value))

def types : Dialect → TypeTarget
  | postgres => .postgres
  | sqlite => .sqlite
  | mysql => .mysql

def quote? : Dialect → Option Char
  | sqlite => some '"'
  | _ => none

def createsIfAbsent (dialect : Dialect) : Bool := dialect = sqlite

def commentsColumns (dialect : Dialect) : Bool := dialect = postgres

def securesRows (dialect : Dialect) : Bool := dialect = postgres

def inlinesForeignKeys (dialect : Dialect) : Bool := dialect = sqlite

def dropsCascading (dialect : Dialect) : Bool := dialect ≠ sqlite

def indexesIfAbsent (dialect : Dialect) : Bool := dialect = sqlite

def indexMethod : Dialect → IndexKind → IndexMethod
  | postgres, .btree => .before "btree"
  | postgres, .gin => .before "gin"
  | postgres, .gist => .before "gist"
  | mysql, .btree => .after "BTREE"
  | _, _ => .unnamed

end Dialect

def IndexMethod.name? : IndexMethod → Option String
  | before name => some name
  | after name => some name
  | unnamed => none

end SchemaArtifacts.Sql
