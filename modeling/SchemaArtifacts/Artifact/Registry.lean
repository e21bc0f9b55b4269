import SchemaArtifacts.Fault
import SchemaArtifacts.Text.LetterCase
import SchemaArtifacts.Text.Trim

/-!
# Registries

A registry holds values under kinds and lets aliases stand for kinds.  Names are compared in lower
case.  A registration that is refused at one of its aliases keeps what it did before.
-/

namespace SchemaArtifacts.Artifact

open Text

structure Registry (α : Type) where
  entries : Keyed α := []
  /-- Aliases with the kinds that they stand for. -/
  aliases : Keyed String := []

namespace Registry

variable {α : Type}

def sorted (names : List String) : List String := names.mergeSort fun a b => decide (a ≤ b)

def kinds (registry : Registry α) : List String := sorted (Keyed.keys registry.entries)

def conflict? (registry : Registry α) (kind name : String) : Option RegistryFault :=
  let key := lower name
  if Keyed.has registry.entries key then some (.aliasIsKind name)
  else
    match Keyed.get? registry.aliases key with
    | some other => if other = kind then none else some (.aliasTaken name other)
    | none => none

def putAlias (registry : Registry α) (kind name : String) : Registry α :=
  { registry with aliases := Keyed.put (lower name) kind registry.aliases }

/-- Adds aliases up to the first that is refused; the kind itself is no alias. -/
def addAliases (registry : Registry α) (kind : String) (replacing : Bool) :
    List String → Registry α × Option RegistryFault
  | [] => (registry, none)
  | name :: rest =>
    if lower name = kind then addAliases registry kind replacing rest
    else
      match if replacing then none else registry.conflict? kind name with
      | some fault => (registry, some fault)
      | none => addAliases (registry.putAlias kind name) kind replacing rest

/-- Registers a value, if the candidate is one.  A kind that is there stays as it is, unless it is
to be replaced. -/
def register (registry : Registry α) (kind : String) (candidate : Option α)
    (aliases : List String) (replacing : Bool) : Registry α × Option RegistryFault :=
  match candidate with
  | none => (registry, some .notGenerator)
  | some value =>
    let key := lower kind
    if Keyed.has registry.entries key && !replacing then (registry, none)
    else
      addAliases { registry with entries := Keyed.put key value registry.entries } key replacing
        aliases

def unregister (registry : Registry α) (kind : String) : Registry α :=
  let key := lower kind
  { entries := Keyed.erase key registry.entries
    aliases := registry.aliases.filter fun entry => entry.2 != key }

def resolve? (registry : Registry α) (name : String) : Option String :=
  let key := lower (trim name)
  if Keyed.has registry.entries key then some key else Keyed.get? registry.aliases key

def resolve (registry : Registry α) (name : String) : Except Fault String :=
  match registry.resolve? name with
  | some kind => .ok kind
  | none => .error (.registry (.unknownKind name registry.kinds))

def isSupported (registry : Registry α) (name : String) : Bool :=
  let key := lower (trim name)
  Keyed.has registry.entries key || Keyed.has registry.aliases key

def valueOf (registry : Registry α) (name : String) : Except Fault α := do
  let kind ← registry.resolve name
  match Keyed.get? registry.entries kind with
  | some value => return value
  | none => throw (.absentKey kind)

def aliasesOf (registry : Registry α) (kind : String) : List String :=
  sorted (Keyed.keys (registry.aliases.filter fun entry => entry.2 == lower kind))

def names (registry : Registry α) : List (String × List String) :=
  registry.entries.map fun entry => (entry.1, entry.1 :: registry.aliasesOf entry.1)

end Registry

end SchemaArtifacts.Artifact
