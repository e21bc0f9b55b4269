import SchemaArtifacts.Proofs.Json.ReadBack

/-!
# Values that count as equal

The entries of an object have no order, and truth values count as numbers.  What lies inside of a
value is never equal to it, since equal values are equally deep.
-/

namespace SchemaArtifacts.Json

def whole? : Json → Option Int
  | bool value => some (if value then 1 else 0)
  | int value => some value
  | _ => none

/-- Values without floating-point numbers that count as equal. -/
inductive IsAlike : Json → Json → Prop
  | null : IsAlike null null
  | whole {left right : Json} {value : Int} (first : whole? left = some value)
      (second : whole? right = some value) : IsAlike left right
  | str (value : String) : IsAlike (str value) (str value)
  | arr {left right : List Json} (length : left.length = right.length)
      (each : ∀ pair ∈ left.zip right, IsAlike pair.1 pair.2) : IsAlike (arr left) (arr right)
  | obj {left right : List (String × Json)} (distinct : (Keyed.keys left).Nodup)
      (distinct' : (Keyed.keys right).Nodup)
      (keys : ∀ key, key ∈ Keyed.keys left ↔ key ∈ Keyed.keys right)
      (each : ∀ key value other, (key, value) ∈ left → (key, other) ∈ right →
        IsAlike value other) : IsAlike (obj left) (obj right)

theorem IsAlike.exists_obj {value : Json} {right : List (String × Json)}
    (alike : IsAlike value (Json.obj right)) :
    ∃ left, value = Json.obj left ∧ (∀ key, key ∈ Keyed.keys left ↔ key ∈ Keyed.keys right) ∧
      ∀ key inner other, (key, inner) ∈ left → (key, other) ∈ right → IsAlike inner other := by
  cases alike with
  | whole first second => cases second
  | obj distinct distinct' keys each => exact ⟨_, rfl, keys, each⟩

mutual

def depth : Json → Nat
  | arr items => depthItems items + 1
  | obj entries => depthEntries entries + 1
  | _ => 0

def depthItems : List Json → Nat
  | [] => 0
  | item :: rest => max (depth item) (depthItems rest)

def depthEntries : List (String × Json) → Nat
  | [] => 0
  | (_, value) :: rest => max (depth value) (depthEntries rest)

end

end SchemaArtifacts.Json
