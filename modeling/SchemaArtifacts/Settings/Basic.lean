import SchemaArtifacts.Fault

/-!
# Settings

Settings hold what configuration says, without checking it: a value of the wrong type is a fault
only where it is used.  Entries under other names than those of the settings are kept as custom
ones.
-/

namespace SchemaArtifacts

structure Settings where
  dialect : Json := .str "postgres"
  ifNotExists : Json := .bool false
  dropTables : Json := .bool true
  indentSize : Json := .int 2
  lineEnding : Json := .str "\n"
  addComments : Json := .bool true
  sampleRows : Json := .int 5
  sampleSeed : Json := .null
  pageLang : Json := .str "en"
  acfLocationParam : Json := .str "post_type"
  custom : Json := .obj []
  deriving Repr, Inhabited

namespace Settings

/-- The settings under their names in configuration, in the order in which they are saved. -/
def entries (settings : Settings) : Keyed Json :=
  [("dialect", settings.dialect),
   ("if_not_exists", settings.ifNotExists),
   ("drop_tables", settings.dropTables),
   ("indent_size", settings.indentSize),
   ("line_ending", settings.lineEnding),
   ("add_comments", settings.addComments),
   ("sample_rows", settings.sampleRows),
   ("sample_seed", settings.sampleSeed),
   ("page_lang", settings.pageLang),
   ("acf_location_param", settings.acfLocationParam),
   ("custom", settings.custom)]

def names : List String := Keyed.keys (entries {})

def set (settings : Settings) (name : String) (value : Json) : Settings :=
  if name = "dialect" then { settings with dialect := value }
  else if name = "if_not_exists" then { settings with ifNotExists := value }
  else if name = "drop_tables" then { settings with dropTables := value }
  else if name = "indent_size" then { settings with indentSize := value }
  else if name = "line_ending" then { settings with lineEnding := value }
  else if name = "add_comments" then { settings with addComments := value }
  else if name = "sample_rows" then { settings with sampleRows := value }
  else if name = "sample_seed" then { settings with sampleSeed := value }
  else if name = "page_lang" then { settings with pageLang := value }
  else if name = "acf_location_param" then { settings with acfLocationParam := value }
  else if name = "custom" then { settings with custom := value }
  else settings

def indent (settings : Settings) : Except Fault String := repeatedText " " settings.indentSize

def lineEndingText (settings : Settings) : Except Fault String :=
  match settings.lineEnding with
  | .str ending => .ok ending
  | value => .error (.wrongType ("line ending must be str, not " ++ value.kindName))

def layout (settings : Settings) : Except Fault Json.Layout :=
  if settings.indentSize.isSet then layoutOf settings.indentSize else .ok .line

def customEntry? (settings : Settings) (name : String) : Except Fault (Option Json) :=
  match settings.custom with
  | .obj held => .ok (Keyed.get? held name)
  | value =>
    .error (.absentMember ("'" ++ value.kindName ++ "' object has no attribute 'get'"))

end Settings

end SchemaArtifacts
