import SchemaArtifacts.Escape.Line
import SchemaArtifacts.Fault

/-!
# Templates

A template is text with places for values.  It is filled from an object: every name that it uses
has to be there, and a name that is missing, at the top or inside a value, is a fault.
-/

namespace SchemaArtifacts.Template

open Escape Text

inductive Filter
  | singleLine
  | blockComment
  deriving DecidableEq, Repr

inductive Expr
  | name (name : String)
  | member (value : Expr) (name : String)
  /-- An entry under a name that objects also have for something else. -/
  | entry (value : Expr) (name : String)
  | filtered (filter : Filter) (value : Expr)
  | length (value : Expr)
  | repeated (unit : String) (times : Expr)
  | choice (condition : Expr) (yes no : String)
  deriving Repr

inductive Part
  | text (text : String)
  | value (value : Expr)
  | either (condition : Expr) (yes no : List Part)
  | each (variable_ : String) (values : Expr) (body : List Part)
  /-- Names a value for the parts that follow. -/
  | define (name : String) (value : Expr)
  deriving Repr

def holderName : Json → String
  | .null => "None"
  | value => value.kindName ++ " object"

/-- A name that a template uses and its values lack. -/
inductive Missing
  | variable (name : String)
  | member (holder name : String)
  deriving DecidableEq, Repr

def Missing.message : Missing → String
  | .variable name => quoted name ++ " is undefined"
  | .member holder name => quoted holder ++ " has no attribute " ++ quoted name

inductive Stop
  | missing (cause : Missing)
  | fault (cause : Fault)
  deriving Repr

def wrongType {α : Type} (detail : String) : Except Stop α := .error (.fault (.wrongType detail))

def memberOf (value : Json) (name : String) : Except Stop Json :=
  match value.obj?.bind (Keyed.get? · name) with
  | some member => .ok member
  | none => .error (.missing (.member (holderName value) name))

def entryOf (value : Json) (name : String) : Except Stop Json :=
  match value with
  | .obj entries =>
    match Keyed.get? entries name with
    | some member => .ok member
    | none => wrongType "'builtin_function_or_method' object is not iterable"
  | value => memberOf value name

def setText (value : Json) : String := if value.isSet then value.plainText else ""

def Filter.apply : Filter → Json → String
  | singleLine, value => Escape.singleLine (setText value)
  | blockComment, value => Escape.blockComment (setText value)

def lengthOf (value : Json) : Except Stop Json :=
  match value.items? with
  | some items => .ok (.int items.length)
  | none => wrongType ("object of type '" ++ value.kindName ++ "' has no len()")

def itemsOf (value : Json) : Except Stop (List Json) :=
  match value.items? with
  | some items => .ok items
  | none => wrongType ("'" ++ value.kindName ++ "' object is not iterable")

namespace Expr

def eval (values : Keyed Json) : Expr → Except Stop Json
  | name key =>
    match Keyed.get? values key with
    | some value => .ok value
    | none => .error (.missing (.variable key))
  | member value key => do memberOf (← value.eval values) key
  | entry value key => do entryOf (← value.eval values) key
  | filtered filter value => do return .str (filter.apply (← value.eval values))
  | length value => do lengthOf (← value.eval values)
  | repeated unit times => do
    return .str (← (repeatedText unit (← times.eval values)).mapError .fault)
  | choice condition yes no => do
    return .str (if (← condition.eval values).isSet then yes else no)

end Expr

mutual

def Part.fill (values : Keyed Json) : Part → Except Stop String
  | .text text => .ok text
  | .value value => do return (← value.eval values).plainText
  | .either condition yes no => do
    if (← condition.eval values).isSet then fillAll values yes else fillAll values no
  | .each variable_ items body => do
    let found ← itemsOf (← items.eval values)
    let texts ← found.mapM fun item => fillAll (Keyed.put variable_ item values) body
    return String.join texts
  | .define _ value => do
    let _ ← value.eval values
    return ""

def fillAll (values : Keyed Json) : List Part → Except Stop String
  | [] => .ok ""
  | .define name value :: rest => do
    let held ← value.eval values
    fillAll (Keyed.put name held values) rest
  | part :: rest => do return (← part.fill values) ++ (← fillAll values rest)

end

def render (name : String) (parts : List Part) (values : Keyed Json) : Except Fault String :=
  match fillAll values parts with
  | .ok text => .ok text
  | .error (.missing cause) => .error (.template name cause.message)
  | .error (.fault cause) => .error cause

end SchemaArtifacts.Template
