import SchemaArtifacts.Artifact.FromDocument
import SchemaArtifacts.Proofs.Artifact.Filenames
import SchemaArtifacts.Proofs.Artifact.Names
import SchemaArtifacts.Proofs.Settings.Merging

/-!
# Artifacts of documents

An artifact straight from a document is made of the options as they are given.  A bundle takes the
dialect apart from the other options and lays it over the defaults whether it is given or not.
Both come to the same settings, and so to the same text.
-/

namespace SchemaArtifacts

open Files

namespace Settings

def dialectOf (options : Keyed Json) : Json :=
  (Keyed.get? options "dialect").getD (.str "postgres")

def withDialect (options : Keyed Json) : Keyed Json :=
  Keyed.put "dialect" (dialectOf options) (Keyed.erase "dialect" options)

theorem default_dialect (artifact : String) :
    (Keyed.get? (defaultsFor artifact) "dialect").or (value? {} "dialect") =
      some (.str "postgres") := by
  have all : ∀ entry ∈ artifactDefaults, Keyed.get? entry.2 "dialect" = none ∨
      Keyed.get? entry.2 "dialect" = some (.str "postgres") := by
    simp [artifactDefaults, Keyed.get?_cons]
  have given : Keyed.get? (defaultsFor artifact) "dialect" = none ∨
      Keyed.get? (defaultsFor artifact) "dialect" = some (.str "postgres") := by
    rw [defaultsFor]
    cases found : Keyed.get? artifactDefaults artifact with
    | none => exact .inl rfl
    | some layer => exact all _ (Keyed.mem_of_get? found)
  rcases given with absent | given
  · rw [absent]
    rfl
  · rw [given]
    rfl

variable {options : Keyed Json}

theorem combines_withDialect (artifact : String) (distinct : (Keyed.keys options).Nodup) :
    Combines artifact [] options (withDialect options) where
  distinct := Keyed.nodup_keys_put (Keyed.nodup_keys_erase distinct _) _ _
  unknown := by
    rw [withDialect, Keyed.filter_put (fun name => !isKnown name), if_neg (by decide),
      Keyed.filter_erase (fun name => !isKnown name) (by decide)]
  custom := by
    rw [withDialect, Keyed.get?_put, if_neg (by decide), Keyed.get?_erase, if_neg (by decide)]
  known := by
    intro name known other
    simp only [firstKnown?, withDialect, Keyed.get?_put, Keyed.get?_erase, Keyed.get?_nil,
      Option.none_or]
    by_cases dialect : name = "dialect"
    · subst dialect
      rw [if_pos rfl, default_dialect, dialectOf]
      cases Keyed.get? options "dialect" <;> rfl
    · rw [if_neg dialect, if_neg dialect]

theorem load_withDialect (tree : Tree) (artifact : String) (distinct : (Keyed.keys options).Nodup) :
    load tree artifact (.obj (withDialect options)) "" = load tree artifact (.obj options) "" := by
  have unnamed : fileLayer tree "" = .ok [] := rfl
  rw [load_eq_resolve unnamed, load_eq_resolve unnamed,
    (combines_withDialect artifact distinct).resolve_eq distinct isKnownOnly_nil, ← resolve_override_alone]

end Settings

namespace Artifact

open Sample Settings

def documentValue : Json → Except Fault Json
  | .str s => (Json.read s).mapError Fault.json
  | value => .ok value

/-- The options for a bundle of one kind, the dialect among them apart from the others. -/
def Options.alone (kind : Kind) (given : Keyed Json) (readDate : Sample.DateReader)
    (entropy : Nat) : Options :=
  { kinds := [kind]
    dialect := dialectOf given
    supply := { entropy, readDate }
    settings := .obj (Keyed.erase "dialect" given) }

variable {makers : Makers} {tree : Tree} {readDate : Sample.DateReader} {name : String}
  {kind : Kind}

theorem resolve_of_parse_kind (parsed : Kind.parse makers name = .ok kind) :
    makers.resolve name = .ok kind.tag := by
  have chosen : (Choice.named name).parse makers = .ok kind := parsed
  exact Choice.resolve_of_parse chosen

theorem valueOf_of_parse (closed : makers.IsClosed) (parsed : Kind.parse makers name = .ok kind) :
    makers.valueOf kind.tag = makers.valueOf name := by
  have resolved := resolve_of_parse_kind parsed
  have there := closed.mem_keys_of_resolve? (Registry.resolve_eq_ok_iff.mp resolved)
  have has : Keyed.has makers.entries kind.tag = true := Keyed.has_eq_true_iff.mpr there
  have itself : makers.resolve kind.tag = .ok kind.tag := by
    simp only [Registry.resolve, Registry.resolve?, lower_trim_tag kind kind.mem_all, has, if_true]
  rw [Registry.valueOf, Registry.valueOf, itself, resolved]

theorem settingsFor_alone (tree : Tree) (kind : Kind) {given : Keyed Json}
    (distinct : (Keyed.keys given).Nodup) (readDate : Sample.DateReader) (entropy : Nat) :
    (Options.alone kind given readDate entropy).settingsFor tree kind =
      load tree kind.tag (.obj given) "" := by
  rw [← load_withDialect tree kind.tag distinct]
  rfl

section Generated

variable {document value : Json} {target : Target} {given : Keyed Json} {content : String}

theorem ofDocument_eq (meant : targetOf value .null = .ok target)
    (resolved : makers.resolve name = .ok kind.tag) (settings : Given) :
    ofDocument makers tree readDate value name settings .null =
      makers.create tree name settings ((Options.alone kind given readDate 0).supplyFor kind) >>=
        fun generator => generator.artifact target := by
  have same : kind.tag = Kind.sampleData.tag ↔ kind = .sampleData := Kind.tag_injective.eq_iff
  simp only [ofDocument, meant, resolved, bind, Except.bind, Options.supplyFor, Options.alone, same]

theorem exists_textOfDocument_eq :
    ∃ text : Result → Except Fault String,
      textOfDocument makers tree readDate document name given =
        (documentValue document >>= fun value =>
          ofDocument makers tree readDate value name (.entries given) .null >>= text) ∧
      (∀ content warnings details, text (.made content warnings details) = .ok content) ∧
      ∀ message warnings, text (.failed message warnings) =
        .error (.generator (.failed message)) := by
  cases document <;> exact ⟨_, rfl, fun _ _ _ => rfl, fun _ _ => rfl⟩

theorem textOfDocument_eq_ok_iff (read : documentValue document = .ok value) :
    textOfDocument makers tree readDate document name given = .ok content ↔
      ∃ warnings details, ofDocument makers tree readDate value name (.entries given) .null =
        .ok (.made content warnings details) := by
  obtain ⟨text, whole, made, failed⟩ := exists_textOfDocument_eq
  rw [whole, read]
  change ofDocument makers tree readDate value name (.entries given) .null >>= text = _ ↔ _
  rw [bind_eq_ok_iff]
  constructor
  · rintro ⟨result, generated, same⟩
    cases result with
    | made held warnings details =>
        rw [made, Except.ok.injEq] at same
        exact ⟨warnings, details, same ▸ generated⟩
    | failed message warnings =>
        rw [failed] at same
        cases same
  · rintro ⟨warnings, details, generated⟩
    exact ⟨_, generated, made content warnings details⟩

theorem create_entries_eq_ok_iff {maker : Maker} (resolved : makers.resolve name = .ok kind.tag)
    (found : makers.valueOf name = .ok maker) {supply : Sample.Supply} {generator : Generator} :
    makers.create tree name (.entries given) supply = .ok generator ↔
      ∃ settings, load tree kind.tag (.obj given) "" = .ok settings ∧
        maker.make settings supply = .ok generator := by
  rw [Makers.create, resolved, found]
  simp only [bind, Except.bind, Given.resolve]
  cases load tree kind.tag (.obj given) "" with
  | error fault => simp [Except.mapError]
  | ok settings => simp [Except.mapError]

theorem artifactFor_alone {maker : Maker} (found : makers.valueOf kind.tag = .ok maker)
    (distinct : (Keyed.keys given).Nodup) (readDate : Sample.DateReader) (entropy : Nat) :
    (Options.alone kind given readDate entropy).artifactFor makers tree target kind =
      load tree kind.tag (.obj given) "" >>= fun settings =>
        maker.make settings ((Options.alone kind given readDate entropy).supplyFor kind) >>=
          fun generator => generator.artifact target := by
  rw [Options.artifactFor, Options.generatorFor, settingsFor_alone tree kind distinct]
  cases load tree kind.tag (.obj given) "" with
  | error fault => rfl
  | ok settings =>
      simp only [bind, Except.bind, Makers.create_of_valueOf found]

theorem exists_bundle_iff {entropy : Nat} :
    (∃ bundle,
        bundleOf makers tree (Options.alone kind given readDate entropy) (some target) =
          .ok bundle ∧
        bundle.get? kind.tag = some content) ↔
      ∃ warnings details,
        (Options.alone kind given readDate entropy).artifactFor makers tree target kind =
          .ok (.made content warnings details) := by
  constructor
  · rintro ⟨bundle, made, held⟩
    obtain ⟨result, generated, same⟩ :=
      Options.get?_artifacts_of_bundleOf made (List.mem_singleton_self kind)
    obtain ⟨warnings, details, rfl⟩ :=
      Result.content?_eq_some_iff.mp (same.symm.trans held)
    exact ⟨warnings, details, generated⟩
  · rintro ⟨warnings, details, generated⟩
    refine ⟨({} : Bundle).add kind (.made content warnings details), ?_, ?_⟩
    · have once : (Options.alone kind given readDate entropy).kinds.eraseDups = [kind] := by
        simp [Options.alone, List.eraseDups_cons]
      have chosen : (Options.alone kind given readDate entropy).kinds.isEmpty = false := rfl
      simp only [bundleOf, chosen, once, List.foldlM_cons, List.foldlM_nil, generated]
      rfl
    · simp [Bundle.get?, Bundle.add, Keyed.put, Keyed.get?_cons]

end Generated

/--
After any registrations, a text straight from a document is the text that a bundle of the one kind
holds, and there is either both or none.  The options lead to the same settings on both ways.
-/
theorem textOfDocument_iff_bundleOf (changes : List (Registry.Change Maker)) {makers : Makers}
    (made : Registry.ofChanges changes = makers) {tree : Tree} {document value : Json}
    {target : Target} {readDate : Sample.DateReader} {name : String} {kind : Kind}
    {given : Keyed Json} {entropy : Nat}
    (read : documentValue document = .ok value) (meant : targetOf value .null = .ok target)
    (parsed : Kind.parse makers name = .ok kind) (distinct : (Keyed.keys given).Nodup)
    (repeatable : (Options.alone kind given readDate entropy).IsRepeatable makers tree target) :
    (Options.alone kind given readDate entropy).settingsFor tree kind =
        load tree kind.tag (.obj given) "" ∧
      ∀ content, textOfDocument makers tree readDate document name given = .ok content ↔
        ∃ bundle,
          bundleOf makers tree (Options.alone kind given readDate entropy) (some target) =
            .ok bundle ∧
          bundle.get? kind.tag = some content := by
  have closed : makers.IsClosed := made ▸ Registry.isClosed_ofChanges changes
  have resolved := resolve_of_parse_kind parsed
  obtain ⟨maker, -, found⟩ := closed.exists_valueOf resolved
  have same := valueOf_of_parse closed parsed
  refine ⟨settingsFor_alone tree kind distinct readDate entropy, fun content => ?_⟩
  -- The text straight from the document is made with the seed that stands for none.
  have unseeded : (Options.alone kind given readDate entropy).artifactFor makers tree target kind =
      (Options.alone kind given readDate 0).artifactFor makers tree target kind :=
    (repeatable kind (List.mem_singleton_self kind) 0).symm
  rw [exists_bundle_iff, textOfDocument_eq_ok_iff read, ofDocument_eq meant resolved, unseeded,
    artifactFor_alone (same.trans found) distinct]
  simp only [bind_eq_ok_iff, create_entries_eq_ok_iff resolved found]
  constructor
  · rintro ⟨warnings, details, generator, ⟨settings, loaded, created⟩, generated⟩
    exact ⟨warnings, details, settings, loaded, generator, created, generated⟩
  · rintro ⟨warnings, details, settings, loaded, generator, created, generated⟩
    exact ⟨warnings, details, generator, ⟨settings, loaded, created⟩, generated⟩

theorem eq_ok_of_toOption {ε α : Type} {result : Except ε α} {value : α}
    (found : result.toOption = some value) : result = .ok value := by
  cases result with
  | error fault => cases found
  | ok held => exact congrArg _ (Option.some.inj found)

def notesDocument : Json :=
  .obj
    [("name", .str "notes"),
     ("fields", .arr
      [.obj [("name", .str "id"), ("type_general", .str "uuid"), ("primary_key", .bool true)]])]

def notes : Table where
  name := "notes"
  id := "notes"
  fields := [{ name := "id", type := .uuid, primaryKey := true }]

def sqliteOptions : Keyed Json := [("drop_tables", .bool false), ("dialect", .str "sqlite")]

def notesScript : String :=
  "-- Table: notes\nCREATE TABLE IF NOT EXISTS \"notes\" (\n  \"id\" TEXT PRIMARY KEY\n);\n"

theorem textOfDocument_iff_bundleOf_notes :
    documentValue (.str (notesDocument.write .line)) = .ok notesDocument ∧
      targetOf notesDocument .null = .ok (.table notes) ∧
      Kind.parse builtin " DDL " = .ok .sql ∧
      textOfDocument builtin {} unread (.str (notesDocument.write .line)) " DDL " sqliteOptions =
        .ok notesScript ∧
      ∃ bundle,
        bundleOf builtin {} (Options.alone .sql sqliteOptions unread 1) (some (.table notes)) =
          .ok bundle ∧
        bundle.get? "sql" = some notesScript := by
  have readable : Json.IsReadable Json.maxNesting notesDocument := by
    refine .obj (by decide) ?_
    simp only [List.forall_mem_cons]
    refine ⟨.str _, .arr ?_, by simp⟩
    rintro _ (_ | ⟨_, ⟨⟩⟩)
    exact .obj (by decide) (by simp [Json.IsReadable.str, Json.IsReadable.bool])
  have read : documentValue (.str (notesDocument.write .line)) = .ok notesDocument := by
    have blank : Json.Layout.line.IsBlank := trivial
    rw [documentValue, mapError_eq_ok_iff, readable.isPlain.read_write_iff blank]
    exact ⟨rfl, readable⟩
  have meant : targetOf notesDocument .null = .ok (.table notes) :=
    eq_ok_of_toOption (by decide +kernel)
  have parsed : Kind.parse builtin " DDL " = .ok .sql := rfl
  have repeatable : (Options.alone .sql sqliteOptions unread 1).IsRepeatable builtin {} (.table notes) :=
    Options.isRepeatable_builtin fun samples => by cases List.mem_singleton.mp samples
  obtain ⟨-, both⟩ := textOfDocument_iff_bundleOf Registry.builtinCalls rfl read meant parsed
    (by decide) repeatable
  obtain ⟨bundle, bundled, held⟩ : ∃ bundle,
      bundleOf builtin {} (Options.alone .sql sqliteOptions unread 1) (some (.table notes)) = .ok bundle ∧
        bundle.get? "sql" = some notesScript := by
    have found : ((bundleOf builtin {} (Options.alone .sql sqliteOptions unread 1)
        (some (.table notes))).toOption.bind (·.get? "sql")) = some notesScript := by
      decide +kernel
    obtain ⟨bundle, bundled, held⟩ := Option.bind_eq_some_iff.mp found
    exact ⟨bundle, eq_ok_of_toOption bundled, held⟩
  exact ⟨read, meant, parsed, (both notesScript).mpr ⟨bundle, bundled, held⟩, bundle, bundled, held⟩

end Artifact

end SchemaArtifacts
