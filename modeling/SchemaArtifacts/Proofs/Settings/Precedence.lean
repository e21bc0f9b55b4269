import SchemaArtifacts.Proofs.Json.DistinctKeys
import SchemaArtifacts.Proofs.Json.Limits
import SchemaArtifacts.Proofs.Settings.Layers

/-!
# Which layer counts

The first of overrides, file and defaults that gives a setting gives its value.  There is one
exception, since custom entries are laid over each other before unknown entries are written over
them: a custom entry of the overrides yields to an unknown entry of the file.
-/

namespace SchemaArtifacts.Settings

open Files

variable {tree : Tree} {file : String} {layer overrides : Keyed Json}

def fileLayer (tree : Tree) (file : String) : Except Fault (Keyed Json) :=
  if file = "" then .ok [] else loadFile tree file

theorem isLayer_fileLayer (loaded : fileLayer tree file = .ok layer)
    (object : ∀ value, Keyed.get? layer "custom" = some value → ∃ held, value = .obj held) :
    IsLayer layer := by
  rw [fileLayer] at loaded
  split at loaded
  · cases loaded
    exact isLayer_nil
  · obtain ⟨-, -, text, -, read⟩ := loadFile_eq_ok_iff.mp loaded
    obtain _ | _ | _ | _ | _ | _ | ⟨distinct, each⟩ := Json.hasDistinctKeys_of_read read
    refine ⟨distinct, fun value found => ?_⟩
    obtain ⟨held, rfl⟩ := object value found
    cases each _ (Keyed.mem_of_get? found) with
    | obj distinct _ => exact ⟨held, rfl, distinct⟩

theorem load_eq_resolve (loaded : fileLayer tree file = .ok layer) (artifact : String)
    (overrides : Keyed Json) :
    load tree artifact (.obj overrides) file = resolve artifact layer overrides := by
  rw [fileLayer] at loaded
  rw [load, resolve]
  split at loaded
  case isTrue unnamed =>
    cases loaded
    rw [if_pos unnamed]
    rfl
  case isFalse named =>
    rw [if_neg named, loaded]
    rfl

theorem IsOverlay.beside? {base all : Keyed Json} (overlay : IsOverlay base overrides all)
    (name : String) :
    beside? all name = (beside? overrides name).or (beside? base name) := by
  simp only [Settings.beside?]
  split
  · rfl
  · apply overlay.entry
    rintro rfl
    contradiction

theorem beside?_defaultsFor (artifact name : String) :
    beside? (defaultsFor artifact) name = none := by
  have known : ∀ entry ∈ artifactDefaults, ∀ key ∈ Keyed.keys entry.2, isKnown key = true := by
    decide
  rw [beside?, defaultsFor]
  split
  · rfl
  · rename_i unknown
    cases found : Keyed.get? artifactDefaults artifact with
    | none => rfl
    | some layer =>
        rw [Option.getD_some, Keyed.get?_eq_none_iff]
        exact fun mem => unknown (known _ (Keyed.mem_of_get? found) name mem)

def firstKnown? (overrides layer : Keyed Json) (artifact name : String) : Option Json :=
  (Keyed.get? overrides name).or <| (Keyed.get? layer name).or <|
    (Keyed.get? (defaultsFor artifact) name).or (value? {} name)

/-- What the first layer that gives a setting of the artifact gives. -/
def firstGiven? (overrides layer : Keyed Json) (artifact name : String) : Option Json :=
  (given? overrides name).or <| (given? layer name).or <| given? (defaultsFor artifact) name

/-- The overrides give a custom entry, and the file another value under the name itself. -/
def IsOverruled (overrides layer : Keyed Json) (name : String) : Prop :=
  beside? overrides name = none ∧
    ∃ asked found, Keyed.get? (customOf overrides) name = some asked ∧
      beside? layer name = some found ∧ found ≠ asked

theorem exists_resolve (artifact : String) (file : IsLayer layer) (above : IsLayer overrides) :
    ∃ settings held, resolve artifact layer overrides = .ok settings ∧
      (∀ name, isKnown name = true → name ≠ "custom" →
        settings.value? name = firstKnown? overrides layer artifact name) ∧
      settings.custom = .obj held ∧
      ∀ name, Keyed.get? held name =
        ((beside? overrides name).or (beside? layer name)).or
          ((Keyed.get? (customOf overrides) name).or <| (Keyed.get? (customOf layer) name).or <|
            Keyed.get? (customOf (defaultsFor artifact)) name) := by
  obtain ⟨withFile, first, lower⟩ := exists_lay (isLayer_defaultsFor artifact) file
  obtain ⟨all, second, upper⟩ := exists_lay lower.layer above
  obtain ⟨settings, held, made, known, custom, others⟩ := exists_ofEntries upper.layer
  refine ⟨settings, held, ?_, fun name listed proper => ?_, custom, fun name => ?_⟩
  · rw [resolve, first]
    simp only [bind, Except.bind, second]
    exact made
  · rw [known name listed proper, upper.entry name proper, lower.entry name proper, firstKnown?]
    simp only [Option.or_assoc]
  · rw [others, given?, upper.beside?, lower.beside?, beside?_defaultsFor, upper.custom,
      lower.custom, Option.or_none]

theorem firstGiven?_iff (overrides layer : Keyed Json) (artifact name : String) :
    (((beside? overrides name).or (beside? layer name)).or
        ((Keyed.get? (customOf overrides) name).or <| (Keyed.get? (customOf layer) name).or <|
          Keyed.get? (customOf (defaultsFor artifact)) name) =
      firstGiven? overrides layer artifact name) ↔ ¬IsOverruled overrides layer name := by
  simp only [firstGiven?, given?, beside?_defaultsFor, IsOverruled]
  cases beside? overrides name with
  | some value => simp
  | none =>
      cases beside? layer name with
      | none => simp
      | some found =>
          cases Keyed.get? (customOf overrides) name with
          | none => simp
          | some asked => simp

/--
Settings are put together whenever custom entries are objects.  Each known setting has the value
that the first layer gives, and so has each of the artifact's own, but for those that the file
overrules: these have the value that the file gives beside the known ones.
-/
theorem load_precedence (artifact : String) (loaded : fileLayer tree file = .ok layer)
    (object : ∀ value, Keyed.get? layer "custom" = some value → ∃ held, value = .obj held)
    (above : IsLayer overrides) :
    ∃ settings held, load tree artifact (.obj overrides) file = .ok settings ∧
      (∀ name, isKnown name = true → name ≠ "custom" →
        settings.value? name = firstKnown? overrides layer artifact name) ∧
      settings.custom = .obj held ∧
      ∀ name,
        (Keyed.get? held name = firstGiven? overrides layer artifact name ↔
          ¬IsOverruled overrides layer name) ∧
        (IsOverruled overrides layer name → Keyed.get? held name = beside? layer name) := by
  have whole := isLayer_fileLayer loaded object
  obtain ⟨settings, held, made, known, custom, others⟩ := exists_resolve artifact whole above
  refine ⟨settings, held, ?_, known, custom, fun name => ⟨?_, ?_⟩⟩
  · rw [load_eq_resolve loaded, made]
  · rw [others]
    exact firstGiven?_iff overrides layer artifact name
  · rintro ⟨silent, asked, found, -, there, -⟩
    rw [others, silent, there]
    rfl

def formatLayer : Keyed Json := [("output_format", .str "json"), ("drop_tables", .bool false)]

def formatText : String := "\x7b\"output_format\": \"json\", \"drop_tables\": false\x7d"

def formatTree : Tree := { nodes := [({ parts := ["f.json"] }, .file formatText)] }

theorem fileLayer_formatTree : fileLayer formatTree "f.json" = .ok formatLayer := by
  have readable : Json.IsReadable Json.maxNesting (.obj formatLayer) :=
    .obj (by decide) (by simp [formatLayer, Json.IsReadable.str, Json.IsReadable.bool])
  have written : formatText = (Json.obj formatLayer).write .line := by decide +kernel
  have read : Json.read formatText = .ok (.obj formatLayer) := by
    have blank : Json.Layout.line.IsBlank := trivial
    rw [written, readable.isPlain.read_write_iff blank]
    exact ⟨rfl, readable⟩
  rw [fileLayer, if_neg (by decide), loadFile_eq_ok_iff]
  exact ⟨rfl, by decide +kernel, formatText, rfl, read⟩

def formatOverrides : Keyed Json :=
  [("dialect", .str "mysql"), ("custom", .obj [("output_format", .str "csv"), ("seed", .int 7)])]

theorem load_precedence_formatTree :
    ∃ settings held, load formatTree "sample_data" (.obj formatOverrides) "f.json" = .ok settings ∧
      settings.dialect = .str "mysql" ∧ settings.dropTables = .bool false ∧
      settings.custom = .obj held ∧ Keyed.get? held "seed" = some (.int 7) ∧
      Keyed.get? held "output_format" = some (.str "json") := by
  have object : ∀ value, Keyed.get? formatLayer "custom" = some value →
      ∃ held, value = .obj held := by
    rintro value ⟨⟩
  have above : IsLayer formatOverrides := by
    refine ⟨by decide, ?_⟩
    rintro value ⟨⟩
    exact ⟨_, rfl, by decide⟩
  obtain ⟨settings, held, made, known, custom, others⟩ :=
    load_precedence "sample_data" fileLayer_formatTree object above
  refine ⟨settings, held, made, ?_, ?_, custom, ?_, ?_⟩
  · exact Option.some.inj (known "dialect" (by decide) (by decide))
  · exact Option.some.inj (known "drop_tables" (by decide) (by decide))
  · apply (others "seed").1.mpr
    rintro ⟨-, asked, found, -, ⟨⟩, -⟩
  · exact (others "output_format").2 ⟨rfl, _, _, rfl, rfl, by simp⟩

/-- The overrides ask for another format than the one that is set. -/
theorem load_formatTree_ne :
    ∃ settings held, load formatTree "sample_data" (.obj formatOverrides) "f.json" = .ok settings ∧
      settings.custom = .obj held ∧
      Keyed.get? held "output_format" ≠
        firstGiven? formatOverrides formatLayer "sample_data" "output_format" := by
  rw [load_eq_resolve fileLayer_formatTree]
  refine ⟨_, _, rfl, rfl, ?_⟩
  change some (Json.str "json") ≠ some (Json.str "csv")
  simp

end SchemaArtifacts.Settings
