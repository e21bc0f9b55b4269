import SchemaArtifacts.Loading.Address
import SchemaArtifacts.Schema.Document
import SchemaArtifacts.Schema.Writing

/-!
# Loading schemas

A schema is loaded from a file or from an address and saved to a file.  What an address answers is
given as a value, so loading is a function of the files and the answer.
-/

namespace SchemaArtifacts.Loading

open Files Text

inductive Failure
  | timeout
  | connection
  /-- A failed status without an answer that holds it. -/
  | unanswered
  | other (detail : String)
  deriving DecidableEq, Repr

inductive Response
  | failed (failure : Failure)
  | answered (status : Int) (contentType body : String)
  deriving DecidableEq, Repr

/-- A schema with the text that says where it came from. -/
structure Loaded where
  source : String
  schema : Schema
  notices : List Notice
  deriving Repr

def fileNotices (path : Path) : List Notice :=
  if path.isNamedJson then [] else [.fileNotNamedJson path.toText]

def ofFile (tree : Tree) (name : String) : Except Fault Loaded := do
  let path := Path.ofText name
  if !(← (tree.holds path).mapError Fault.file) then throw (.fileMissing path.toText)
  match tree.read path with
  | .error fault => throw (.load (.unreadable path.toText fault))
  | .ok text =>
    match Json.read text with
    | .error cause =>
      throw (Fault.ofReading (fun cause => .load (.invalidJson path.toText cause)) cause)
    | .ok value =>
      return { source := "📄 " ++ path.toText
               schema := Schema.ofDocument value path.stem
               notices := fileNotices path ++ Schema.documentNotices value path.stem }

def isFailedStatus (status : Int) : Bool := 400 ≤ status && status < 600

def responseNotices (url contentType : String) : List Notice :=
  let type := lower contentType
  if contains type "application/json" || hasEnd url ".json" then []
  else [.responseNotTypedJson url type]

def offeredName (address : Address) : String :=
  let stem := (Path.ofText address.path).stem
  if stem = "" then "schema" else stem

def bodyText (body : String) : String :=
  match body.toList with
  | '\ufeff' :: rest => String.ofList rest
  | _ => body

def failureFault (url : String) : Failure → Fault
  | .timeout => .load (.timeout url)
  | .connection => .load (.connection url)
  | .unanswered => .absentMember "'NoneType' object has no attribute 'status_code'"
  | .other detail => .load (.request url detail)

def ofUrl (response : Response) (url : String) : Except Fault Loaded := do
  let address ← Address.ofText url
  if address.scheme = "" || address.host = "" then throw (.load (.invalidAddress url))
  match response with
  | .failed failure => throw (failureFault url failure)
  | .answered status contentType body =>
    if isFailedStatus status then throw (.load (.status status url))
    match Json.read (bodyText body) with
    | .error cause =>
      throw (Fault.ofReading (fun cause => .load (.invalidResponse url cause.message)) cause)
    | .ok value =>
      let name := offeredName address
      return { source := "🌐 " ++ url
               schema := Schema.ofDocument value name
               notices := responseNotices url contentType ++ Schema.documentNotices value name }

def load (tree : Tree) (response : Response) (file url : String) : Except Fault Loaded :=
  if file = "" && url = "" then .error (.load .noSource)
  else if file != "" && url != "" then .error (.load .twoSources)
  else if file != "" then ofFile tree file
  else ofUrl response url

def save (tree : Tree) (schema : Schema) (name : String) : Except Fault Tree :=
  let path := Path.ofText name
  (tree.write path schema.fileText).mapError
    (Fault.ofFile fun fault => .load (.unwritable path.toText fault))

end SchemaArtifacts.Loading
