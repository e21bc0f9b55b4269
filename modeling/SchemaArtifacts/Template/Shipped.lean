import SchemaArtifacts.Artifact.Kind
import SchemaArtifacts.Template.Basic

/-!
# Shipped templates

The templates of the artifacts that have one, to be filled with values from elsewhere.  They show
the parts of a module, a data model, a page or a reference as these are written for a schema.
-/

namespace SchemaArtifacts.Template

open Artifact

def line (text : String) : Part := .text (text ++ "\n")

def shown (key : String) : Part := .value (.name key)

def oneLine (value : Expr) : Part := .value (.filtered .singleLine value)

def comment (value : Expr) : Part := .value (.filtered .blockComment value)

def member (holder key : String) : Expr := .member (.name holder) key

def shownMember (holder key : String) : Part := .value (member holder key)

def ifSet (condition : Expr) (parts : List Part) : Part := .either condition parts []

def interfaceModule : List Part :=
  [.text "// Generated TypeScript types",
   ifSet (.name "title") [.text " for ", oneLine (.name "title")],
   line "",
   .each "interface" (.name "interfaces")
     [line "",
      ifSet (member "interface" "description")
        [.text "/** ", comment (member "interface" "description"), line " */"],
      .text "export interface ", shownMember "interface" "name", line " \x7b",
      .each "field" (member "interface" "fields")
        [ifSet (member "field" "comment")
           [.text "  /** ", comment (member "field" "comment"), line " */"],
         .text "  ", shownMember "field" "key",
         .value (.choice (member "field" "optional") "?" ""),
         .text ": ", shownMember "field" "type", line ";"],
      line "\x7d"]]

def contentModule : List Part :=
  [line "// Content collection configuration",
   line "// File: src/content/config.ts",
   ifSet (.name "title") [.text "// ", oneLine (.name "title"), line ""],
   line "",
   line "import \x7b defineCollection, z \x7d from 'astro:content';",
   .each "collection" (.name "collections")
     [line "",
      ifSet (member "collection" "description")
        [.text "// ", oneLine (member "collection" "description"), line ""],
      .text "const ", shownMember "collection" "variable", line " = defineCollection(\x7b",
      line "  type: 'content',",
      line "  schema: z.object(\x7b",
      .each "field" (member "collection" "fields")
        [.text "    ", shownMember "field" "key", .text ": ", shownMember "field" "expression",
         line ","],
      line "  \x7d),",
      line "\x7d);"],
   line "",
   line "export const collections = \x7b",
   .each "collection" (.name "collections")
     [.text "  ", shownMember "collection" "key", .text ": ", shownMember "collection" "variable",
      line ","],
   line "\x7d;"]

def modelFile : List Part :=
  [.text "// Generated Prisma schema",
   ifSet (.name "title") [.text " for ", oneLine (.name "title")],
   line "",
   line "generator client \x7b",
   line "  provider = \"prisma-client-js\"",
   line "\x7d",
   line "",
   line "datasource db \x7b",
   .text "  provider = \"", shown "provider", line "\"",
   .text "  url      = env(\"", shown "url_env", line "\")",
   line "\x7d",
   .each "model" (.name "models")
     [line "",
      ifSet (member "model" "description")
        [.text "/// ", oneLine (member "model" "description"), line ""],
      .text "model ", shownMember "model" "name", line " \x7b",
      .each "field" (member "model" "fields")
        [ifSet (member "field" "comment")
           [.text "  /// ", oneLine (member "field" "comment"), line ""],
         .text "  ", shownMember "field" "line", line ""],
      ifSet (member "model" "map")
        [line "", .text "  @@map(\"", shownMember "model" "map", line "\")"],
      line "\x7d"],
   .each "enum" (.name "enums")
     [line "",
      .text "enum ", shownMember "enum" "name", line " \x7b",
      .each "value" (.entry (.name "enum") "values") [.text "  ", shown "value", line ""],
      line "\x7d"]]

def page : List Part :=
  [line "---",
   .text "// File: src/pages/", oneLine (.name "table_name"), line "/[slug].astro",
   .text "// Dynamic page for ", oneLine (.name "title"), line "",
   line "",
   line "import \x7b getCollection \x7d from 'astro:content';",
   line "import type \x7b CollectionEntry \x7d from 'astro:content';",
   line "",
   line "export async function getStaticPaths() \x7b",
   .text "  const ", shown "entries_variable", .text " = await getCollection(",
   shown "collection", line ");",
   .text "  return ", shown "entries_variable", line ".map((entry) => (\x7b",
   line "    params: \x7b slug: entry.slug \x7d,",
   line "    props: \x7b entry \x7d,",
   line "  \x7d));",
   line "\x7d",
   line "",
   line "type Props = \x7b",
   .text "  entry: CollectionEntry<", shown "collection", line ">;",
   line "\x7d;",
   line "",
   line "const \x7b entry \x7d = Astro.props;",
   line "const \x7b Content \x7d = await entry.render();",
   line "---",
   line "",
   .text "<html lang=\"", shown "lang", line "\">",
   line "  <head>",
   line "    <meta charset=\"utf-8\" />",
   line "    <meta name=\"viewport\" content=\"width=device-width, initial-scale=1.0\" />",
   .text "    <title>", shown "slug_expression", .text " | ", shown "table_label",
   line "</title>",
   .text "    <meta name=\"description\" content=", shown "description_expression", line " />",
   line "  </head>",
   line "  <body>",
   line "    <main>",
   line "      <article>",
   line "        <header>",
   .text "          <h1>", shown "slug_expression", line "</h1>",
   .each "field" (.name "meta_fields")
     [.text "          <p><strong>", shownMember "field" "label", .text ":</strong> ",
      shownMember "field" "expression", line "</p>"],
   line "        </header>",
   line "",
   line "        <Content />",
   line "      </article>",
   line "    </main>",
   line "  </body>",
   line "</html>"]

def schemaReference : List Part :=
  [.text "# ", oneLine (member "schema" "name"), line "",
   ifSet (member "schema" "description")
     [line "", shownMember "schema" "description", line ""],
   line "",
   line "## Overview",
   line "",
   .text "- **Version**: ", oneLine (member "schema" "version"), line "",
   .text "- **Tables**: ", .value (.length (member "schema" "tables")), line "",
   .text "- **Fields**: ", shownMember "schema" "field_count", line "",
   ifSet (.name "toc")
     [line "",
      line "## Tables",
      line "",
      .each "entry" (.name "toc")
        [.text "- [", oneLine (member "entry" "name"), .text "](#", shownMember "entry" "anchor",
         .text ") (", shownMember "entry" "field_count", line " fields)"]],
   .each "section" (.name "sections") [line "", shown "section", line ""]]

def heading (text : String) : List Part := [line "", shown "h", line text]

def statistic (label key : String) : List Part :=
  [.text ("- **" ++ label ++ "**: "), shownMember "stats" key, line ""]

def enumPart : List Part :=
  [line "", shown "h", .text "## ", oneLine (member "field" "name"), line "", line "",
   .either (member "field" "enum_values")
     [.each "value" (member "field" "enum_values")
       [.text "- \x60", oneLine (.name "value"), line "\x60"]]
     [line "_No values defined._"]]

def relationPart : List Part :=
  [line "", shown "h", .text "## ", oneLine (member "relation" "name"), line "", line "",
   .text "- **Target**: \x60", shownMember "relation" "target", line "\x60",
   .text "- **Cardinality**: ", shownMember "relation" "cardinality", line ""]

def tableReference : List Part :=
  [.define "h" (.repeated "#" (.name "level")),
   shown "h", .text " ", oneLine (.name "title"), line "",
   ifSet (member "table" "description") [line "", shownMember "table" "description", line ""],
   ifSet (member "table" "notes")
     (heading "# Notes" ++ [line "", shownMember "table" "notes", line ""])] ++
  heading "# Statistics" ++ [line ""] ++
  statistic "Fields" "total" ++ statistic "Required" "required" ++ statistic "Unique" "unique" ++
  statistic "Relations" "relations" ++ statistic "Enums" "enums" ++
  [ifSet (.name "rows")
     (heading "# Fields" ++
      [line "",
       line "| Name | Type | SQL | Description | Constraints |",
       line "|------|------|-----|-------------|-------------|",
       .each "row" (.name "rows")
         [.text "| ", shownMember "row" "name", .text " | ", shownMember "row" "type",
          .text " | \x60", shownMember "row" "sql", .text "\x60 | ",
          shownMember "row" "description", .text " | ", shownMember "row" "constraints",
          line " |"]]),
   ifSet (.name "enum_fields")
     (heading "# Enums" ++ [.each "field" (.name "enum_fields") enumPart]),
   ifSet (.name "relation_fields")
     (heading "# Relations" ++ [.each "relation" (.name "relation_fields") relationPart]),
   ifSet (.name "examples")
     (heading "# Example values" ++
      [line "",
       .each "example" (.name "examples")
         [.text "- **", oneLine (member "example" "name"), .text "**: ",
          oneLine (member "example" "value"), line ""]])]

def shipped : Kind → Keyed (List Part)
  | .contentConfig => [("content_config.ts.j2", contentModule)]
  | .page => [("page.astro.j2", page)]
  | .documentation => [("schema.md.j2", schemaReference), ("table.md.j2", tableReference)]
  | .typescript => [("interfaces.ts.j2", interfaceModule)]
  | .prisma => [("schema.prisma.j2", modelFile)]
  | _ => []

def plainName (name : String) : String :=
  String.intercalate "/"
    (((name.toList.splitOn '/').map String.ofList).filter fun part => part != "" && part != ".")

/-- Fills a template of a kind; a kind without the template says its name. -/
def renderFor (kind : Kind) (name : String) (values : Keyed Json) : Except Fault String :=
  match Keyed.get? (shipped kind) (plainName name) with
  | some parts => render name parts values
  | none => .error (.template name name)

end SchemaArtifacts.Template
