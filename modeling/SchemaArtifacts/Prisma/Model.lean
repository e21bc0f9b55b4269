import SchemaArtifacts.Collection
import SchemaArtifacts.Prisma.Default
import SchemaArtifacts.Settings.Basic

/-!
# Data models

A data model file has one model for each table and one enum for each closed set.  Columns whose
names are no identifiers are renamed and mapped back.
-/

namespace SchemaArtifacts.Prisma

open Escape Naming

structure Entry where
  line : String
  comment : String
  deriving DecidableEq, Repr

structure Enum where
  name : String
  values : List String
  deriving DecidableEq, Repr

structure Model where
  name : String
  description : String
  entries : List Entry
  /-- The name of the table, where it is another one. -/
  mapped : String
  deriving DecidableEq, Repr

def fieldDefault? (field : Field) : Option String :=
  (field.sqlDefault.filter (· != "")).map fun sql =>
    match Default.ofSql sql with
    | .literal body =>
      if field.hasEnumValues then
        cleanPlain (String.ofList (body.toList.flatMap escapeText))
      else (Default.literal body).text
    | found => found.text

def keyAttributes (field : Field) : List String :=
  if field.primaryKey then ["@id"] else if field.unique then ["@unique"] else []

def mapAttribute (name : String) : String := "@map(\"" ++ name ++ "\")"

def isOptional (field : Field) : Bool := !field.required && !field.primaryKey

def fieldParts (field : Field) (type : String) : List String :=
  let name := cleanPlain field.name
  [name, type ++ (if isOptional field then "?" else "")] ++ keyAttributes field ++
    (fieldDefault? field).toList.map (fun value => "@default(" ++ value ++ ")") ++
    (if name = field.name then [] else [mapAttribute field.name])

def fieldLine (field : Field) (type : String) : String :=
  String.intercalate " " (fieldParts field type) ++
    ((field.foreignKey.map fun key => " // references " ++ key.dotted).getD "")

/-- The entries of fields, the enums that they need, and the register after naming these. -/
def fieldEntries (comments : Bool) (model : String) :
    List Field → Register → List Entry × List Enum × Register
  | [], register => ([], [], register)
  | field :: rest, register =>
    let comment := if comments then field.description else ""
    if field.hasEnumValues then
      let (name, register) :=
        register.issue { name := model ++ "_" ++ field.name, style := .pascal }
      let (entries, enums, register) := fieldEntries comments model rest register
      (⟨fieldLine field name, comment⟩ :: entries,
        ⟨name, field.enumValues.map cleanPlain⟩ :: enums, register)
    else
      let (entries, enums, register) := fieldEntries comments model rest register
      (⟨fieldLine field (TypeTarget.prisma.typeName field.type), comment⟩ :: entries, enums,
        register)

def tableModel (comments : Bool) (table : Table) (register : Register) :
    Model × List Enum × Register :=
  let (name, register) := register.issue { name := table.name, style := .pascal }
  let (entries, enums, register) := fieldEntries comments name table.fields register
  ({ name
     description := if comments then table.description else ""
     entries
     mapped := if name = table.name then "" else table.name }, enums, register)

def models (comments : Bool) : List Table → Register → List Model × List Enum
  | [], _ => ([], [])
  | table :: rest, register =>
    let (model, enums, register) := tableModel comments table register
    let (others, moreEnums) := models comments rest register
    (model :: others, enums ++ moreEnums)

def Entry.lines (entry : Entry) : List String :=
  (if entry.comment = "" then [] else ["  /// " ++ singleLine entry.comment]) ++
    ["  " ++ entry.line]

def Model.lines (model : Model) : List String :=
  [""] ++
    (if model.description = "" then [] else ["/// " ++ singleLine model.description]) ++
    ["model " ++ model.name ++ " \x7b"] ++ model.entries.flatMap Entry.lines ++
    (if model.mapped = "" then [] else ["", "  @@map(\"" ++ model.mapped ++ "\")"]) ++ ["\x7d"]

def Enum.lines (enum : Enum) : List String :=
  ["", "enum " ++ enum.name ++ " \x7b"] ++ enum.values.map ("  " ++ ·) ++ ["\x7d"]

/-- Where the data is: the provider and the variable that holds the address. -/
structure Source where
  provider : String
  addressVariable : String
  deriving DecidableEq, Repr

def fileLines (title : String) (source : Source) (models : List Model) (enums : List Enum) :
    List String :=
  ["// Generated Prisma schema" ++ (if title = "" then "" else " for " ++ singleLine title),
   "generator client \x7b",
   "  provider = \"prisma-client-js\"",
   "\x7d",
   "",
   "datasource db \x7b",
   "  provider = \"" ++ source.provider ++ "\"",
   "  url      = env(\"" ++ source.addressVariable ++ "\")",
   "\x7d"] ++
    models.flatMap Model.lines ++ enums.flatMap Enum.lines

def fileText (comments : Bool) (source : Source) (target : Target) : String :=
  let (models, enums) := models comments target.tables Register.forModels
  Collection.endedLines (fileLines target.name source models enums)

def Source.ofSettings (settings : Settings) : Except Fault Source := do
  let provider := (← settings.customEntry? "provider").getD (.str "postgresql")
  let address := (← settings.customEntry? "url_env").getD (.str "DATABASE_URL")
  return ⟨provider.plainText, address.plainText⟩

end SchemaArtifacts.Prisma
