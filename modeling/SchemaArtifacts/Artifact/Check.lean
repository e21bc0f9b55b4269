import SchemaArtifacts.Schema.Basic

/-!
# Checking targets

Before an artifact is generated, its target is looked at for what is probably a mistake.
-/

namespace SchemaArtifacts.Artifact

def keyWarnings (table : Table) : List String :=
  match table.primaryKeys with
  | [] => ["Table '" ++ table.name ++ "' has no primary key"]
  | [_] => []
  | keys =>
    ["Table '" ++ table.name ++ "' has several primary keys: " ++
      String.intercalate ", " (keys.map (·.name))]

def fieldWarnings (table : Table) (field : Field) : List String :=
  let place := table.name ++ "." ++ field.name
  (if field.type = .enum && field.enumValues.isEmpty then
    ["Enum field " ++ place ++ " has no values"]
  else []) ++
    (if field.type = .relation && field.foreignKey.isNone then
      ["Relation field " ++ place ++ " has no foreign key"]
    else [])

def tableWarnings (table : Table) : List String :=
  if table.fields.isEmpty then ["Table '" ++ table.name ++ "' has no fields"]
  else keyWarnings table ++ table.fields.flatMap (fieldWarnings table)

def targetWarnings : Target → List String
  | .table table => tableWarnings table
  | .schema schema =>
    (if schema.tables.isEmpty then ["Schema '" ++ schema.name ++ "' has no tables"] else []) ++
      schema.tables.flatMap tableWarnings

end SchemaArtifacts.Artifact
