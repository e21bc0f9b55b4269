import SchemaArtifacts.Escape.Delimited
import SchemaArtifacts.Text.CharSet
import SchemaArtifacts.Text.LetterCase
import SchemaArtifacts.Text.Trim
import SchemaArtifacts.Text.Word

/-!
# Default expressions

A default of SQL is carried over where the data model has a word for it: new identifiers, the
current time, truth values, numbers and literals.  Anything else stays an expression of the
database.
-/

namespace SchemaArtifacts.Prisma

open Text

def isNumberTail (cs : List Char) : Bool :=
  match cs.dropWhile isDecimalDigit with
  | [] => true
  | '.' :: d :: rest => (d :: rest).all isDecimalDigit
  | _ => false

def isNumber (cs : List Char) : Bool :=
  let body := match cs with
    | '-' :: rest => rest
    | cs => cs
  match body with
  | [] => false
  | d :: rest => isDecimalDigit d && isNumberTail rest

/-- Whether the characters after a literal are nothing or a cast to a named type. -/
def isCast (cs : List Char) : Bool :=
  match cs with
  | [] => true
  | ':' :: ':' :: c :: rest => (c :: rest).all isWord
  | _ => false

def literalBody? : List Char → Option (List Char)
  | [] => none
  | c :: rest =>
    match literalBody? rest with
    | some body => some (c :: body)
    | none => if c = '\'' && isCast rest then some [] else none

/-- What stands between the first quote and the last, whatever quotes are inside. -/
def literal? : List Char → Option (List Char)
  | '\'' :: rest => literalBody? rest
  | _ => none

def undoubleQuotes : List Char → List Char
  | [] => []
  | '\'' :: '\'' :: rest => '\'' :: undoubleQuotes rest
  | c :: rest => c :: undoubleQuotes rest

def escapeQuote (c : Char) : List Char := if c = '"' then ['\\', '"'] else [c]

def escapeText (c : Char) : List Char := if c = '\\' then ['\\', '\\'] else escapeQuote c

inductive Default
  | newIdentifier
  | now
  | plain (text : String)
  | literal (body : String)
  | expression (text : String)
  deriving DecidableEq, Repr

def Default.text : Default → String
  | newIdentifier => "uuid()"
  | now => "now()"
  | plain text => text
  | literal body => "\"" ++ String.ofList (body.toList.flatMap escapeText) ++ "\""
  | expression text => "dbgenerated(\"" ++ String.ofList (text.toList.flatMap escapeQuote) ++ "\")"

def identifierCalls : List String := ["gen_random_uuid()", "uuid_generate_v4()"]

def timeCalls : List String := ["now()", "current_timestamp", "current_timestamp()"]

def Default.ofSql (sql : String) : Default :=
  let value := trim sql
  let lowered := lower value
  if identifierCalls.contains lowered then newIdentifier
  else if timeCalls.contains lowered then now
  else if lowered = "true" || lowered = "false" || isNumber value.toList then plain lowered
  else
    match literal? value.toList with
    | some body => literal (String.ofList (undoubleQuotes body))
    | none => expression value

def defaultText? (sql : String) : Option String :=
  if sql = "" then none else some (Default.ofSql sql).text

end SchemaArtifacts.Prisma
