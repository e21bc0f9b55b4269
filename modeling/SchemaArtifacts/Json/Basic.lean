import SchemaArtifacts.Decimal.Binary64
import SchemaArtifacts.Keyed

/-!
# JSON values

Documents, configuration settings and sample cells are JSON values.  Whole numbers are unbounded
and differ from floating-point numbers; the entries of an object keep their order.
-/

namespace SchemaArtifacts

inductive Json
  | null
  | bool (value : Bool)
  | int (value : Int)
  | float (value : Binary64)
  | str (value : String)
  | arr (items : List Json)
  | obj (entries : List (String × Json))
  deriving Repr, Inhabited

namespace Json

def kindName : Json → String
  | null => "NoneType"
  | bool _ => "bool"
  | int _ => "int"
  | float _ => "float"
  | str _ => "str"
  | arr _ => "list"
  | obj _ => "dict"

def isSet : Json → Bool
  | null => false
  | bool value => value
  | int value => value != 0
  | float value => !value.isZero
  | str value => value != ""
  | arr items => !items.isEmpty
  | obj entries => !entries.isEmpty

def isNull : Json → Bool
  | null => true
  | _ => false

def str? : Json → Option String
  | str value => some value
  | _ => none

def obj? : Json → Option (Keyed Json)
  | obj entries => some entries
  | _ => none

def items? : Json → Option (List Json)
  | arr items => some items
  | str value => some (value.toList.map fun c => str (String.singleton c))
  | obj entries => some (entries.map fun entry => str entry.1)
  | _ => none

def member (value : Json) (key : String) : Json :=
  match value with
  | obj entries => (Keyed.get? entries key).getD null
  | _ => null

end Json

end SchemaArtifacts
