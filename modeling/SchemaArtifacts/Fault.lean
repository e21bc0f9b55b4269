import SchemaArtifacts.Files.Tree
import SchemaArtifacts.Json.Inspect
import SchemaArtifacts.Json.Reader
import SchemaArtifacts.Json.Writer

/-!
# Faults

Why an operation gives no result.  A fault is a cause with what it is about; `message` holds the
wording.  Values of the wrong type, absent members and the like come from wrongly typed settings
or arguments.
-/

namespace SchemaArtifacts

open Text Files

inductive SettingsFault
  | fileMissing (path : String)
  | fileNotJson (path : String)
  | invalidJson (path : String) (fault : Json.Fault)
  | unreadable (path : String) (fault : FileFault)
  | notObject (path : String)
  | unwritable (path : String) (fault : FileFault)
  deriving Repr

namespace SettingsFault

def message : SettingsFault → String
  | fileMissing path => "Configuration file not found: " ++ path
  | fileNotJson path => "Configuration file must be JSON: " ++ path
  | invalidJson path fault =>
    "Invalid JSON in configuration file " ++ path ++ ": " ++ fault.message
  | unreadable path fault => "Failed to load configuration file " ++ path ++ ": " ++ fault.message
  | notObject path => "Configuration file must contain a JSON object: " ++ path
  | unwritable path fault => "Failed to save configuration to " ++ path ++ ": " ++ fault.message

end SettingsFault

inductive RegistryFault
  | notGenerator
  | aliasIsKind (name : String)
  | aliasTaken (name kind : String)
  | unknownKind (name : String) (available : List String)
  | invalidSettings (kindName : String)
  | notConfigured (kind detail : String)
  deriving Repr

namespace RegistryFault

def message : RegistryFault → String
  | notGenerator => "Generator class must inherit from ArtifactGenerator"
  | aliasIsKind name => "Alias '" ++ name ++ "' conflicts with existing artifact kind"
  | aliasTaken name kind => "Alias '" ++ name ++ "' already points to '" ++ kind ++ "'"
  | unknownKind name available =>
    "No generator registered for artifact kind: " ++ name ++ ". Available: " ++
      String.intercalate ", " available
  | invalidSettings kindName => "Invalid config type: " ++ kindName
  | notConfigured kind detail => "Failed to configure " ++ kind ++ " generator: " ++ detail

end RegistryFault

inductive GeneratorFault
  | invalidSettings (kindName : String)
  | notTarget (kindName : String)
  | unsupportedDialect (value : Json)
  | unsupportedFormat (value : Json)
  | noTarget
  | noKind
  | tableMissing (name : String)
  | failed (detail : String)
  deriving Repr

namespace GeneratorFault

def message : GeneratorFault → String
  | invalidSettings kindName => "Invalid config type: " ++ kindName
  | notTarget kindName => "Expected a Table or Schema, got " ++ kindName
  | unsupportedDialect value =>
    "Unsupported SQL dialect: " ++ value.inspect ++ " (supported: postgres, sqlite, mysql)"
  | unsupportedFormat value => "Unsupported sample data format: " ++ value.plainText
  | noTarget => "No table or schema selected"
  | noKind => "No artifact kind selected"
  | tableMissing name => "Table not found: " ++ name
  | failed detail => "Artifact generation failed: " ++ detail

end GeneratorFault

inductive LoadFault
  | noSource
  | twoSources
  | invalidJson (path : String) (fault : Json.Fault)
  | unreadable (path : String) (fault : FileFault)
  | unwritable (path : String) (fault : FileFault)
  | invalidAddress (url : String)
  | timeout (url : String)
  | connection (url : String)
  | status (code : Int) (url : String)
  | invalidResponse (url detail : String)
  | request (url detail : String)
  deriving Repr

namespace LoadFault

def message : LoadFault → String
  | noSource => "Either file_path or url must be provided"
  | twoSources => "Cannot specify both file_path and url"
  | invalidJson path fault => "Invalid JSON in file " ++ path ++ ": " ++ fault.message
  | unreadable path fault => "Error reading file " ++ path ++ ": " ++ fault.message
  | unwritable path fault => "Error writing file " ++ path ++ ": " ++ fault.message
  | invalidAddress url => "Invalid URL: " ++ url
  | timeout url => "Request timeout for URL: " ++ url
  | connection url => "Connection error for URL: " ++ url
  | status code url => "HTTP error " ++ signedNumeral code ++ " for URL: " ++ url
  | invalidResponse url detail => "Invalid JSON response from URL " ++ url ++ ": " ++ detail
  | request url detail => "Request error for URL " ++ url ++ ": " ++ detail

end LoadFault

inductive Fault
  | settings (cause : SettingsFault)
  | registry (cause : RegistryFault)
  | generator (cause : GeneratorFault)
  | load (cause : LoadFault)
  | json (cause : Json.Fault)
  | template (name detail : String)
  | fileMissing (path : String)
  | file (cause : FileFault)
  | wrongType (detail : String)
  | absentMember (detail : String)
  | badValue (detail : String)
  | absentKey (key : String)
  | notRecord (kindName : String)
  | tooLarge (detail : String)
  | tooDeep
  deriving Repr

namespace Fault

def message : Fault → String
  | settings cause => cause.message
  | registry cause => cause.message
  | generator cause => cause.message
  | load cause => cause.message
  | json cause => cause.message
  | template name detail => "Failed to render template " ++ name ++ ": " ++ detail
  | fileMissing path => "File not found: " ++ path
  | file cause => cause.message
  | wrongType detail => detail
  | absentMember detail => detail
  | badValue detail => detail
  | absentKey key => quoted key
  | notRecord kindName => "iterable expected, not " ++ kindName
  | tooLarge detail => detail
  | tooDeep => "maximum recursion depth exceeded"

/-- What a fault of the file system is reported as.  A path that no system can hold is no such
fault. -/
def ofFile (report : FileFault → Fault) : FileFault → Fault
  | .nullCharacter path => file (.nullCharacter path)
  | cause => report cause

/-- What a text that cannot be read as JSON is reported as.  A text beyond what a reader takes is
no malformed text. -/
def ofReading (report : Json.Fault → Fault) (cause : Json.Fault) : Fault :=
  if cause.problem.isLimit then json cause else report cause

end Fault

theorem bind_eq_ok_iff {ε α β : Type} {first : Except ε α} {next : α → Except ε β} {result : β} :
    first >>= next = .ok result ↔ ∃ value, first = .ok value ∧ next value = .ok result := by
  cases first with
  | error fault => simp [bind, Except.bind]
  | ok value => simp [bind, Except.bind]

theorem map_eq_ok_iff {ε α β : Type} {next : α → β} {result : Except ε α} {value : β} :
    result.map next = .ok value ↔ ∃ found, result = .ok found ∧ next found = value := by
  cases result with
  | error fault => simp [Except.map]
  | ok found => simp [Except.map]

theorem mapError_eq_ok_iff {ε ε' α : Type} {cause : ε → ε'} {result : Except ε α} {value : α} :
    result.mapError cause = .ok value ↔ result = .ok value := by
  cases result with
  | error fault => exact ⟨nofun, nofun⟩
  | ok found =>
    constructor
    · exact fun same => congrArg Except.ok (Except.ok.inj same)
    · exact fun same => congrArg Except.ok (Except.ok.inj same)

/-- How often a text is repeated: never below zero, and not more often than a machine word can
count. -/
def repetitions (count : Int) : Except Fault Nat :=
  if count < -0x8000000000000000 || 0x8000000000000000 ≤ count then
    .error (.tooLarge "cannot fit 'int' into an index-sized integer")
  else .ok count.toNat

theorem repetitions_of_lt {count : Int} (whole : 0 ≤ count) (fits : count < 0x8000000000000000) :
    repetitions count = .ok count.toNat := by
  have counted : ¬ (count < -0x8000000000000000 ∨ 0x8000000000000000 ≤ count) := by omega
  simp [repetitions, counted]

theorem repetitions_of_tooLarge {count : Int} (large : 0x8000000000000000 ≤ count) :
    repetitions count = .error (.tooLarge "cannot fit 'int' into an index-sized integer") := by
  simp [repetitions, large]

/-- A text as often as a value says; the truth values count as one and zero. -/
def repeatedText (unit : String) : Json → Except Fault String
  | .int count => do return String.join (List.replicate (← repetitions count) unit)
  | .bool value => .ok (if value then unit else "")
  | value =>
    .error (.wrongType ("can't multiply sequence by non-int of type '" ++ value.kindName ++ "'"))

/-- The layout that a value asks for: a count of spaces or the text for one level; null means one
line. -/
def layoutOf : Json → Except Fault Json.Layout
  | .null => .ok .line
  | .str unit => .ok (.indented unit)
  | value => (repeatedText " " value).map .indented

end SchemaArtifacts
