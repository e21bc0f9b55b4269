import SchemaArtifacts.Proofs.Files.Extension
import SchemaArtifacts.Proofs.Files.ReadAfterWrite
import SchemaArtifacts.Proofs.Json.Alike
import SchemaArtifacts.Proofs.Json.Limits
import SchemaArtifacts.Proofs.Json.LineBreaks
import SchemaArtifacts.Proofs.Settings.Layers

/-!
# Saved settings read back

Custom entries are saved beside the known ones and are told apart by their names again.  So they
come back as they were just when none of them is named like a known one: a known entry would not
come back as a custom one, unless out of the custom value itself, and that lies deeper than what
comes out of it.  Values that lie too deep are not even saved, since they are copied first.
-/

namespace SchemaArtifacts.Settings

open Files Json Text

variable {settings loaded : Settings} {held : Keyed Json}

mutual

/-- How many calls inside of each other copying a value takes. -/
def calls : Json → Nat
  | .arr items => callsItems items + 2
  | .obj entries => callsEntries entries + 2
  | _ => 3

def callsItems : List Json → Nat
  | [] => 1
  | item :: rest => max (calls item) (callsItems rest)

def callsEntries : List (String × Json) → Nat
  | [] => 1
  | (_, value) :: rest => max (calls value) (callsEntries rest)

end

section Copies

variable {room : Nat}

end Copies

/-! ## Saved entries -/

def known (settings : Settings) : Keyed Json := Keyed.erase "custom" settings.entries

def stored (settings : Settings) (held : Keyed Json) : Keyed Json :=
  Keyed.merge settings.known held

theorem loadFile_written_iff {tree : Tree} {file : String} {written layer : Keyed Json}
    (plain : IsPlain (.obj written))
    (found : tree.find (Path.ofText file) = .ok (.file ((Json.obj written).write (.indented "  ")))) :
    loadFile tree file = .ok layer ↔
      (Path.ofText file).isNamedJson = true ∧ layer = written ∧
        IsReadable maxNesting (.obj written) := by
  have blank : (Layout.indented "  ").IsBlank := by simp [Layout.IsBlank, isJsonBlank]
  have keeps : (Layout.indented "  ").KeepsBreaks := Layout.keepsBreaks_indented (by decide)
  rw [loadFile_eq_ok_iff, Tree.holds_of_find found, Tree.read_of_find found,
    plain.withUniversalBreaks_write keeps]
  simp [plain.read_write_iff blank]

def IsAlike (settings other : Settings) : Prop :=
  Json.IsAlike (.obj settings.entries) (.obj other.entries)

theorem IsAlike.custom {other : Settings} (alike : settings.IsAlike other) :
    Json.IsAlike settings.custom other.custom := by
  obtain ⟨_, ⟨⟩, -, each⟩ := alike.exists_obj
  exact each "custom" _ _ (by simp [entries]) (by simp [entries])

/-- What is saved of the settings is loaded from the file as equal settings. -/
def ReadsBack (settings : Settings) (room : Nat) (tree : Tree) (file : String) : Prop :=
  ∃ saved loaded, save room tree settings file = .ok saved ∧
    load saved "" .null file = .ok loaded ∧ loaded.IsAlike settings

def sized (rows lang : Json) : Settings := { sampleRows := rows, pageLang := lang }

end SchemaArtifacts.Settings
