import SchemaArtifacts.Settings.Entries

/-!
# Layers of settings

Settings are put together from layers: the defaults of an artifact, a file, and overrides.  A later
layer counts more; custom objects are merged entry by entry.
-/

namespace SchemaArtifacts.Settings

/-- Defaults of the artifacts that need other ones than the settings themselves give. -/
def artifactDefaults : Keyed (Keyed Json) :=
  [("sql",
     [("dialect", .str "postgres"), ("drop_tables", .bool true), ("add_comments", .bool true)]),
   ("sample_data",
     [("sample_rows", .int 5), ("custom", .obj [("output_format", .str "csv")])]),
   ("page", [("page_lang", .str "en")]),
   ("prisma",
     [("custom", .obj [("provider", .str "postgresql"), ("url_env", .str "DATABASE_URL")])])]

def artifactsWithDefaults : List String := Keyed.keys artifactDefaults

def defaultsFor (artifact : String) : Keyed Json :=
  (Keyed.get? artifactDefaults artifact).getD []

def layEntry (base : Keyed Json) (entry : String × Json) : Except Fault (Keyed Json) :=
  match entry with
  | ("custom", .obj overrides) => do
    let held ← entriesOrNone ((Keyed.get? base "custom").getD .null)
    return Keyed.put "custom" (.obj (Keyed.merge held overrides)) base
  | (name, value) => .ok (Keyed.put name value base)

def lay (base overrides : Keyed Json) : Except Fault (Keyed Json) :=
  overrides.foldlM layEntry base

def isKnown (name : String) : Bool := names.contains name

/-- Settings from entries; entries under other names are written over the custom ones. -/
def ofEntries (given : Keyed Json) : Except Fault Settings := do
  let known := given.filter fun entry => isKnown entry.1
  let unknown := given.filter fun entry => !isKnown entry.1
  let settings := known.foldl (fun settings entry => settings.set entry.1 entry.2) ({} : Settings)
  if unknown.isEmpty then return settings
  let held ← entriesOrNone ((Keyed.get? known "custom").getD .null)
  return { settings with custom := .obj (Keyed.merge held unknown) }

/-- Settings for an artifact from its defaults, a layer from a file, and overrides. -/
def resolve (artifact : String) (fileLayer overrides : Keyed Json) : Except Fault Settings := do
  let withFile ← lay (defaultsFor artifact) fileLayer
  let all ← lay withFile overrides
  ofEntries all

end SchemaArtifacts.Settings
