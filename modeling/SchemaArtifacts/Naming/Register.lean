import SchemaArtifacts.Keyed
import SchemaArtifacts.Naming.Case
import SchemaArtifacts.Naming.Identifier
import SchemaArtifacts.Text.Numeral

/-!
# Name registers

A register hands out identifiers that are neither reserved nor taken.  A name asked for again gets
the identifier it got before; a reserved one gets a suffix and a taken one the least number that
makes it free.
-/

namespace SchemaArtifacts.Naming

open Text

/-- The identifiers handed out so far, under the requests that they answered. -/
structure Register where
  reserved : List String
  issued : Keyed String := []
  deriving Repr

/-- What is asked for: a name, a style, and the suffix for reserved words. -/
structure Request where
  name : String
  style : CaseStyle := .snake
  suffix : String := "_"
  deriving DecidableEq, Repr

def Request.key (request : Request) : String :=
  request.name ++ "_" ++ request.style.tag ++ "_" ++ request.suffix

namespace Register

def taken (register : Register) (identifier : String) : Bool :=
  register.issued.any (·.2 == identifier)

def isReserved (register : Register) (identifier : String) : Bool :=
  register.reserved.contains (lower identifier)

def candidate (identifier : String) : Nat → String
  | 0 => identifier
  | n + 1 => identifier ++ numeral (n + 1)

/-- The first candidate that is not taken; there is one among as many as were issued and one. -/
def free (register : Register) (identifier : String) : String :=
  let candidates := (List.range (register.issued.length + 1)).map (candidate identifier)
  (candidates.find? fun name => !register.taken name).getD identifier

def settle (register : Register) (request : Request) : String :=
  let converted := convert request.style (clean request.name)
  register.free (if register.isReserved converted then converted ++ request.suffix else converted)

def issue (register : Register) (request : Request) : String × Register :=
  match Keyed.get? register.issued request.key with
  | some identifier => (identifier, register)
  | none =>
    let identifier := register.settle request
    (identifier, { register with issued := register.issued ++ [(request.key, identifier)] })

def reset (register : Register) : Register := { register with issued := [] }

def scriptWords : List String :=
  ["break", "case", "catch", "class", "const", "continue", "debugger", "default", "delete", "do",
   "else", "enum", "export", "extends", "false", "finally", "for", "function", "if", "import",
   "in", "instanceof", "new", "null", "return", "super", "switch", "this", "throw", "true", "try",
   "typeof", "var", "void", "while", "with", "let", "static", "yield", "await", "interface",
   "type", "record", "string", "number", "boolean", "date", "object"]

def modelWords : List String :=
  ["string", "int", "float", "boolean", "datetime", "json", "bytes", "decimal", "bigint", "model",
   "enum", "generator", "datasource", "prisma", "query", "mutation", "subscription"]

def forScripts : Register := { reserved := scriptWords }

def forModels : Register := { reserved := modelWords }

end Register

end SchemaArtifacts.Naming
