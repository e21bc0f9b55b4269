import SchemaArtifacts.Collection
import SchemaArtifacts.Escape.Markup
import SchemaArtifacts.Settings.Basic

/-!
# Pages

A page shows one entry of the collection of a table: the slug field as its title, and up to three
other fields below it.
-/

namespace SchemaArtifacts.Page

open Escape Naming

def maxMetaFields : Nat := 3

/-- The position of the first field made for slugs, or else of the first field. -/
def slugIndex (table : Table) : Nat := (table.fields.findIdx? (·.slugCompatible)).getD 0

def slugField? (table : Table) : Option Field := table.fields[slugIndex table]?

def metaFields (table : Table) : List Field :=
  (table.fields.eraseIdx (slugIndex table)).take maxMetaFields

structure Content where
  table : String
  title : String
  entriesVariable : String
  slugExpression : String
  description : String
  /-- Labels and expressions of the fields below the title. -/
  metaFields : List (String × String)
  deriving DecidableEq, Repr

def content (table : Table) : Content :=
  { table := table.name
    title := if table.description = "" then table.name else table.description
    entriesVariable := convert .camel (clean table.name) ++ "Entries"
    slugExpression := entryExpression ((slugField? table).map (·.name) |>.getD "title")
    description := table.description
    metaFields :=
      (metaFields table).map fun field => (pageText field.label, entryExpression field.name) }

def descriptionExpression (content : Content) : String :=
  "\x7bentry.data.description || " ++ scriptLiteral content.description ++ "\x7d"

def scriptLines (content : Content) : List String :=
  let collection := scriptLiteral content.table
  let entries := content.entriesVariable
  ["---",
   "// File: src/pages/" ++ singleLine content.table ++ "/[slug].astro",
   "// Dynamic page for " ++ singleLine content.title,
   "",
   "import \x7b getCollection \x7d from 'astro:content';",
   "import type \x7b CollectionEntry \x7d from 'astro:content';",
   "",
   "export async function getStaticPaths() \x7b",
   "  const " ++ entries ++ " = await getCollection(" ++ collection ++ ");",
   "  return " ++ entries ++ ".map((entry) => (\x7b",
   "    params: \x7b slug: entry.slug \x7d,",
   "    props: \x7b entry \x7d,",
   "  \x7d));",
   "\x7d",
   "",
   "type Props = \x7b",
   "  entry: CollectionEntry<" ++ collection ++ ">;",
   "\x7d;",
   "",
   "const \x7b entry \x7d = Astro.props;",
   "const \x7b Content \x7d = await entry.render();",
   "---"]

def metaLine (entry : String × String) : String :=
  "          <p><strong>" ++ entry.1 ++ ":</strong> " ++ entry.2 ++ "</p>"

def markupLines (language : String) (content : Content) : List String :=
  ["",
   "<html lang=\"" ++ attributeText language ++ "\">",
   "  <head>",
   "    <meta charset=\"utf-8\" />",
   "    <meta name=\"viewport\" content=\"width=device-width, initial-scale=1.0\" />",
   "    <title>" ++ content.slugExpression ++ " | " ++ pageText content.table ++ "</title>",
   "    <meta name=\"description\" content=" ++ descriptionExpression content ++ " />",
   "  </head>",
   "  <body>",
   "    <main>",
   "      <article>",
   "        <header>",
   "          <h1>" ++ content.slugExpression ++ "</h1>"] ++
    content.metaFields.map metaLine ++
    ["        </header>",
     "",
     "        <Content />",
     "      </article>",
     "    </main>",
     "  </body>",
     "</html>"]

def pageText (language : String) (table : Table) : String :=
  Collection.endedLines (scriptLines (content table) ++ markupLines language (content table))

def language (settings : Settings) : Except Fault String :=
  match settings.pageLang with
  | .str language => .ok language
  | value =>
    .error (.absentMember ("'" ++ value.kindName ++ "' object has no attribute 'replace'"))

end SchemaArtifacts.Page
