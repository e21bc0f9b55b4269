import SchemaArtifacts.Schema.Coercion

/-!
# Type map

Each output format has one token for each general field type.  `typeName` is total; `tokenFor` also
answers for targets and types that are not known, with a notice.
-/

namespace SchemaArtifacts

inductive TypeTarget
  | postgres
  | sqlite
  | mysql
  | validation
  | typescript
  | prisma
  | acf
  deriving DecidableEq, Repr

namespace TypeTarget

def tag : TypeTarget → String
  | postgres => "sql:postgres"
  | sqlite => "sql:sqlite"
  | mysql => "sql:mysql"
  | validation => "validation-schema"
  | typescript => "typescript"
  | prisma => "prisma"
  | acf => "acf"

def all : List TypeTarget := [postgres, sqlite, mysql, validation, typescript, prisma, acf]

def typeName : TypeTarget → FieldType → String
  | postgres, type =>
    match type with
    | .string => "VARCHAR(255)"
    | .text => "TEXT"
    | .int => "INTEGER"
    | .float => "DECIMAL(10,2)"
    | .bool => "BOOLEAN"
    | .datetime => "TIMESTAMP"
    | .enum => "VARCHAR(50)"
    | .relation => "UUID"
    | .image => "TEXT"
    | .uuid => "UUID"
    | .json => "JSONB"
  | sqlite, type =>
    match type with
    | .int => "INTEGER"
    | .float => "REAL"
    | .bool => "BOOLEAN"
    | .datetime => "DATETIME"
    | _ => "TEXT"
  | mysql, type =>
    match type with
    | .string => "VARCHAR(255)"
    | .text => "TEXT"
    | .int => "INT"
    | .float => "DECIMAL(10,2)"
    | .bool => "BOOLEAN"
    | .datetime => "DATETIME"
    | .enum => "VARCHAR(50)"
    | .relation => "VARCHAR(36)"
    | .image => "VARCHAR(255)"
    | .uuid => "VARCHAR(36)"
    | .json => "JSON"
  | validation, type =>
    match type with
    | .int => "z.number().int()"
    | .float => "z.number()"
    | .bool => "z.boolean()"
    | .datetime => "z.date()"
    | .uuid => "z.string().uuid()"
    | .json => "z.record(z.any())"
    | _ => "z.string()"
  | typescript, type =>
    match type with
    | .int => "number"
    | .float => "number"
    | .bool => "boolean"
    | .datetime => "Date"
    | .json => "Record<string, unknown>"
    | _ => "string"
  | prisma, type =>
    match type with
    | .int => "Int"
    | .float => "Float"
    | .bool => "Boolean"
    | .datetime => "DateTime"
    | .json => "Json"
    | _ => "String"
  | acf, type =>
    match type with
    | .string => "text"
    | .text => "textarea"
    | .int => "number"
    | .float => "number"
    | .bool => "true_false"
    | .datetime => "date_time_picker"
    | .enum => "select"
    | .relation => "relationship"
    | .image => "image"
    | .uuid => "text"
    | .json => "textarea"

def fallback : TypeTarget → String
  | postgres | sqlite | mysql => "TEXT"
  | validation => "z.string()"
  | typescript => "string"
  | prisma => "String"
  | acf => "text"

def ofTag? (tag : String) : Option TypeTarget := all.find? (·.tag == tag)

def generic : String := "text"

def ofJson? : Json → Option TypeTarget
  | .str tag => ofTag? tag
  | _ => none

def tokenFor (type target : Json) : String × List Notice :=
  match ofJson? target with
  | none => (generic, [.unknownTarget target generic])
  | some known =>
    match Coercion.fieldType? type with
    | some fieldType => (known.typeName fieldType, [])
    | none => (known.fallback, [.unmappedType type known.tag known.fallback])

end TypeTarget

end SchemaArtifacts
