import Mathlib.Data.List.Induction
import Mathlib.Data.List.Nodup
import SchemaArtifacts.Artifact.Bundle

/-!
# What a bundle holds

Each chosen kind is generated once, and its result is put into the bundle under its tag: a text with
the name and the type of a file for it, or an error.  The kinds share nothing but the source of
identifiers, which only sample data draws from.  So the artifact of a kind is the one that is made
for it alone.
-/

namespace SchemaArtifacts

namespace Keyed

variable {α : Type}

def putAny (key : String) (value? : Option α) (entries : Keyed α) : Keyed α :=
  match value? with
  | some value => put key value entries
  | none => entries

theorem ofPairs_concat (pairs : List (String × α)) (key : String) (value : α) :
    ofPairs (pairs ++ [(key, value)]) = put key value (ofPairs pairs) := by
  simp [ofPairs, merge]

end Keyed

namespace Artifact

open Files

namespace Result

def content? : Result → Option String
  | made content _ _ => some content
  | failed _ _ => none

def filename? : Result → Option String
  | made _ _ details => some details.filename
  | failed _ _ => none

def mimeType? : Result → Option String
  | made _ _ details => some details.mimeType
  | failed _ _ => none

def warnings : Result → List String
  | made _ warnings _ => warnings
  | failed _ warnings => warnings

def error? : Result → Option String
  | made _ _ _ => none
  | failed message _ => some (if message = "" then "generation failed" else message)

theorem content?_eq_some_iff {result : Result} {content : String} :
    result.content? = some content ↔
      ∃ warnings details, result = .made content warnings details := by
  cases result with
  | made held warnings details => simp [content?]
  | failed message warnings => simp [content?]

theorem isSome_error? (result : Result) : result.error?.isSome = !result.content?.isSome := by
  cases result <;> rfl

theorem isSome_filename? (result : Result) :
    result.filename?.isSome = result.content?.isSome := by
  cases result <;> rfl

theorem isSome_mimeType? (result : Result) :
    result.mimeType?.isSome = result.content?.isSome := by
  cases result <;> rfl

end Result

namespace Bundle

theorem add_eq (bundle : Bundle) (kind : Kind) (result : Result) :
    bundle.add kind result =
      { artifacts := Keyed.putAny kind.tag result.content? bundle.artifacts
        filenames := Keyed.putAny kind.tag result.filename? bundle.filenames
        mimeTypes := Keyed.putAny kind.tag result.mimeType? bundle.mimeTypes
        warnings := Keyed.putAny kind.tag (some result.warnings) bundle.warnings
        errors := Keyed.putAny kind.tag result.error? bundle.errors } := by
  cases result <;> rfl

def ofResults (results : List (Kind × Result)) : Bundle :=
  results.foldl (fun bundle entry => bundle.add entry.1 entry.2) {}

/-- What results have of one kind of entry, under the tags of their kinds. -/
def column {α : Type} (value? : Result → Option α) (results : List (Kind × Result)) : Keyed α :=
  results.filterMap fun entry => (value? entry.2).map (entry.1.tag, ·)

section Column

variable {α β : Type} {value? : Result → Option α} {results : List (Kind × Result)}

theorem ofPairs_column_concat (value? : Result → Option α) (results : List (Kind × Result))
    (kind : Kind) (result : Result) :
    Keyed.ofPairs (column value? (results ++ [(kind, result)])) =
      Keyed.putAny kind.tag (value? result) (Keyed.ofPairs (column value? results)) := by
  cases found : value? result with
  | none => simp [column, found, Keyed.putAny]
  | some value =>
      rw [Keyed.putAny, ← Keyed.ofPairs_concat]
      simp [column, found]

/-- A bundle of any results, several of one kind among them: each is written over what the bundle
has under its tag. -/
theorem ofResults_eq (results : List (Kind × Result)) :
    ofResults results =
      { artifacts := Keyed.ofPairs (column Result.content? results)
        filenames := Keyed.ofPairs (column Result.filename? results)
        mimeTypes := Keyed.ofPairs (column Result.mimeType? results)
        warnings := Keyed.ofPairs (column (fun result => some result.warnings) results)
        errors := Keyed.ofPairs (column Result.error? results) } := by
  induction results using List.reverseRecOn with
  | nil => rfl
  | append_singleton results entry ih =>
      obtain ⟨kind, result⟩ := entry
      rw [ofResults, List.foldl_concat, ← ofResults, add_eq, ih]
      simp only [ofPairs_column_concat]

theorem keys_column (value? : Result → Option α) (results : List (Kind × Result)) :
    Keyed.keys (column value? results) =
      (results.filter fun entry => (value? entry.2).isSome).map (·.1.tag) := by
  induction results with
  | nil => rfl
  | cons entry rest ih =>
      rw [Keyed.keys, column] at ih ⊢
      cases found : value? entry.2 with
      | none => simp [found, ih]
      | some value => simp [found, ih]

theorem keys_column_sublist (value? : Result → Option α) (results : List (Kind × Result)) :
    (Keyed.keys (column value? results)).Sublist (results.map (·.1.tag)) := by
  rw [keys_column]
  exact List.filter_sublist.map _

theorem mem_keys_column {tag : String} :
    tag ∈ Keyed.keys (column value? results) ↔
      ∃ entry ∈ results, (value? entry.2).isSome = true ∧ entry.1.tag = tag := by
  simp [keys_column, and_assoc]

theorem keys_column_congr {other? : Result → Option β}
    (alike : ∀ result, (value? result).isSome = (other? result).isSome) :
    Keyed.keys (column value? results) = Keyed.keys (column other? results) := by
  simp only [keys_column, alike]

end Column

end Bundle

/-! ## Kinds and their tags -/

theorem Kind.ofTag?_tag (kind : Kind) : ofTag? kind.tag = some kind := by
  cases kind <;> rfl

theorem Kind.tag_injective : Function.Injective tag := by
  intro kind other same
  have found := ofTag?_tag kind
  rw [same, ofTag?_tag] at found
  exact (Option.some.inj found).symm

theorem Kind.tag_of_ofTag? {tag : String} {kind : Kind} (found : ofTag? tag = some kind) :
    kind.tag = tag := by
  simpa using List.find?_some found

theorem nodup_tags {results : List (Kind × Result)} (distinct : (results.map Prod.fst).Nodup) :
    (results.map (·.1.tag)).Nodup := by
  have tags := distinct.map Kind.tag_injective
  rwa [List.map_map] at tags

namespace Bundle

variable {results : List (Kind × Result)} {α : Type}

theorem nodup_keys_column (distinct : (results.map Prod.fst).Nodup)
    (value? : Result → Option α) : (Keyed.keys (column value? results)).Nodup :=
  (nodup_tags distinct).sublist (keys_column_sublist value? results)

theorem ofPairs_column (distinct : (results.map Prod.fst).Nodup) (value? : Result → Option α) :
    Keyed.ofPairs (column value? results) = column value? results :=
  Keyed.ofPairs_of_nodup (nodup_keys_column distinct value?)

theorem get?_column (distinct : (results.map Prod.fst).Nodup) (value? : Result → Option α)
    {kind : Kind} {result : Result} (mem : (kind, result) ∈ results) :
    Keyed.get? (column value? results) kind.tag = value? result := by
  cases found : value? result with
  | none =>
      rw [Keyed.get?_eq_none_iff, mem_keys_column]
      rintro ⟨⟨other, held⟩, among, isSome, same⟩
      have same : other = kind := Kind.tag_injective same
      obtain ⟨-, rfl⟩ := Prod.ext_iff.mp (List.inj_on_of_nodup_map distinct among mem same)
      simp [found] at isSome
  | some value =>
      refine Keyed.get?_of_mem (nodup_keys_column distinct value?) ?_
      exact List.mem_filterMap.mpr ⟨(kind, result), mem, by simp [found]⟩

/-- The bundle holds a result for each of some tags, and nothing else. -/
structure Covers (bundle : Bundle) (tags : List String) : Prop where
  apart : List.Disjoint (Keyed.keys bundle.artifacts) (Keyed.keys bundle.errors)
  together : ∀ tag,
    (tag ∈ Keyed.keys bundle.artifacts ∨ tag ∈ Keyed.keys bundle.errors) ↔ tag ∈ tags
  inOrder : (Keyed.keys bundle.artifacts).Sublist tags
  filenames : Keyed.keys bundle.filenames = Keyed.keys bundle.artifacts
  mimeTypes : Keyed.keys bundle.mimeTypes = Keyed.keys bundle.artifacts
  warnings : Keyed.keys bundle.warnings = tags

theorem ofResults_covers (distinct : (results.map Prod.fst).Nodup) :
    (ofResults results).Covers (results.map (·.1.tag)) := by
  simp only [ofResults_eq, ofPairs_column distinct]
  constructor
  case apart =>
    intro tag made failed
    obtain ⟨entry, mem, content, rfl⟩ := mem_keys_column.mp made
    obtain ⟨other, among, error, same⟩ := mem_keys_column.mp failed
    obtain rfl := List.inj_on_of_nodup_map distinct among mem (Kind.tag_injective same)
    rw [Result.isSome_error?, content] at error
    cases error
  case together =>
    intro tag
    simp only [mem_keys_column, List.mem_map]
    constructor
    · rintro (⟨entry, mem, -, same⟩ | ⟨entry, mem, -, same⟩)
      · exact ⟨entry, mem, same⟩
      · exact ⟨entry, mem, same⟩
    · rintro ⟨entry, mem, same⟩
      cases content : entry.2.content?.isSome with
      | true => exact .inl ⟨entry, mem, content, same⟩
      | false => exact .inr ⟨entry, mem, by rw [Result.isSome_error?, content]; rfl, same⟩
  case inOrder => exact keys_column_sublist _ _
  case filenames => exact keys_column_congr Result.isSome_filename?
  case mimeTypes => exact keys_column_congr Result.isSome_mimeType?
  case warnings => simp [keys_column]

def addAll (generate : Kind → Except Fault Result) (bundle : Bundle) (kinds : List Kind) :
    Except Fault Bundle :=
  kinds.foldlM (fun bundle kind => do return bundle.add kind (← generate kind)) bundle

theorem addAll_cons (generate : Kind → Except Fault Result) (bundle : Bundle) (kind : Kind)
    (rest : List Kind) :
    addAll generate bundle (kind :: rest) =
      generate kind >>= fun result => addAll generate (bundle.add kind result) rest := by
  rw [addAll, List.foldlM_cons]
  cases generate kind <;> rfl

theorem exists_results {generate : Kind → Except Fault Result} {kinds : List Kind}
    {start bundle : Bundle} (made : addAll generate start kinds = .ok bundle) :
    ∃ results : List (Kind × Result), results.map Prod.fst = kinds ∧
      (∀ entry ∈ results, generate entry.1 = .ok entry.2) ∧
      results.foldl (fun bundle entry => bundle.add entry.1 entry.2) start = bundle := by
  induction kinds generalizing start with
  | nil => exact ⟨[], rfl, by simp, Except.ok.inj made⟩
  | cons kind rest ih =>
      rw [addAll_cons, bind_eq_ok_iff] at made
      obtain ⟨result, generated, later⟩ := made
      obtain ⟨results, kinds, all, same⟩ := ih later
      refine ⟨(kind, result) :: results, by rw [List.map_cons, kinds], ?_, same⟩
      exact List.forall_mem_cons.mpr ⟨generated, all⟩

end Bundle

theorem eraseDups_concat {α : Type} [DecidableEq α] (items : List α) (item : α) :
    (items ++ [item]).eraseDups =
      if item ∈ items then items.eraseDups else items.eraseDups ++ [item] := by
  rw [List.eraseDups_append]
  by_cases mem : item ∈ items
  · simp [mem, List.removeAll]
  · simp [mem, List.removeAll, List.eraseDups_cons]

theorem nodup_eraseDups {α : Type} [DecidableEq α] (items : List α) : items.eraseDups.Nodup := by
  induction items using List.reverseRecOn with
  | nil => simp
  | append_singleton items item ih =>
      rw [eraseDups_concat]
      split
      case isTrue => exact ih
      case isFalse new =>
        rw [← List.concat_eq_append, List.nodup_concat]
        exact ⟨by rwa [List.mem_eraseDups], ih⟩

theorem eraseDups_map {α β : Type} [DecidableEq α] [DecidableEq β] {f : α → β}
    (injective : Function.Injective f) (items : List α) :
    (items.map f).eraseDups = items.eraseDups.map f := by
  induction items using List.reverseRecOn with
  | nil => simp
  | append_singleton items item ih =>
      rw [List.map_append, List.map_singleton, eraseDups_concat, eraseDups_concat, ih]
      have image : f item ∈ items.map f ↔ item ∈ items := List.mem_map_of_injective injective
      by_cases mem : item ∈ items
      · simp only [image, mem, if_true]
      · simp only [image, mem, if_false, List.map_append, List.map_singleton]

/-- A kind as it is chosen: itself, or by one of its names. -/
inductive Choice
  | itself (kind : Kind)
  | named (name : String)

namespace Choice

def parse (makers : Makers) : Choice → Except Fault Kind
  | itself kind => .ok kind
  | named name => Kind.parse makers name

def resolve (makers : Makers) : Choice → Except Fault String
  | itself kind => .ok kind.tag
  | named name => makers.resolve name

variable {makers : Makers}

theorem resolve_of_parse {choice : Choice} {kind : Kind}
    (parsed : choice.parse makers = .ok kind) : choice.resolve makers = .ok kind.tag := by
  cases choice with
  | itself chosen =>
      obtain rfl := Except.ok.inj parsed
      rfl
  | named name =>
      rw [parse, Kind.parse, bind_eq_ok_iff] at parsed
      obtain ⟨tag, resolved, parsed⟩ := parsed
      split at parsed
      case h_1 chosen found =>
        obtain rfl := Except.ok.inj parsed
        rw [resolve, resolved, Kind.tag_of_ofTag? found]
      case h_2 => cases parsed

theorem mapM_resolve {choices : List Choice} {kinds : List Kind}
    (parsed : choices.mapM (parse makers) = .ok kinds) :
    choices.mapM (resolve makers) = .ok (kinds.map Kind.tag) := by
  induction choices generalizing kinds with
  | nil =>
      obtain rfl := Except.ok.inj parsed
      rfl
  | cons choice rest ih =>
      rw [List.mapM_cons, bind_eq_ok_iff] at parsed
      obtain ⟨kind, first, parsed⟩ := parsed
      obtain ⟨others, later, parsed⟩ := bind_eq_ok_iff.mp parsed
      obtain rfl := Except.ok.inj parsed
      rw [List.mapM_cons, resolve_of_parse first, ih later]
      rfl

end Choice

/-! ## Makers -/

theorem Makers.create_of_valueOf {makers : Makers} {name : String} {maker : Maker}
    (found : makers.valueOf name = .ok maker) (tree : Tree) (settings : Settings)
    (supply : Sample.Supply) :
    makers.create tree name (.settings settings) supply = maker.make settings supply := by
  have resolving := found
  rw [Registry.valueOf, bind_eq_ok_iff] at resolving
  obtain ⟨kind, resolved, -⟩ := resolving
  rw [create, resolved, found]
  rfl

theorem Kind.generator_sampleData (settings : Settings) (supply : Sample.Supply) :
    sampleData.generator settings supply = sampleGenerator settings supply := by
  simp [generator]

namespace Options

variable {options : Options} {makers : Makers} {tree : Tree} {target : Target}

/-- The options with another seed for where neither a source nor the settings give one. -/
def reseeded (options : Options) (entropy : Nat) : Options :=
  { options with supply := { options.supply with entropy } }

/-- No artifact of the chosen kinds depends on the seed that is drawn where none is given. -/
def IsRepeatable (options : Options) (makers : Makers) (tree : Tree) (target : Target) : Prop :=
  ∀ kind ∈ options.kinds, ∀ entropy,
    (options.reseeded entropy).artifactFor makers tree target kind =
      options.artifactFor makers tree target kind

/-- A generator that is made for the kind alone, with the settings of the options, makes the
text. -/
def MakesAlone (options : Options) (makers : Makers) (tree : Tree) (target : Target) (kind : Kind)
    (content : String) : Prop :=
  ∃ settings generator warnings details,
    options.settingsFor tree kind = .ok settings ∧
    makers.create tree kind.tag (.settings settings) (options.supplyFor kind) = .ok generator ∧
    generator.artifact target = .ok (.made content warnings details)

theorem makesAlone_iff {kind : Kind} {content : String} :
    options.MakesAlone makers tree target kind content ↔
      ∃ warnings details,
        options.artifactFor makers tree target kind = .ok (.made content warnings details) := by
  simp only [MakesAlone, artifactFor, generatorFor, bind_eq_ok_iff]
  constructor
  · rintro ⟨settings, generator, warnings, details, loaded, created, made⟩
    exact ⟨warnings, details, generator, ⟨settings, loaded, created⟩, made⟩
  · rintro ⟨warnings, details, generator, ⟨settings, loaded, created⟩, made⟩
    exact ⟨settings, generator, warnings, details, loaded, created, made⟩

theorem artifactFor_withSupply {kind : Kind} {supply : Sample.Supply}
    (same : kind = .sampleData → supply = options.supply) :
    { options with supply }.artifactFor makers tree target kind =
      options.artifactFor makers tree target kind := by
  have supplies : { options with supply }.supplyFor kind = options.supplyFor kind := by
    simp only [supplyFor]
    split
    case isTrue sample => rw [same sample]
    case isFalse => rfl
  rw [artifactFor, artifactFor, generatorFor, generatorFor, supplies]
  rfl

def GivesIdentifiers (options : Options) (tree : Tree) : Prop :=
  options.supply.source?.isSome ∨
    ∃ settings seed, options.settingsFor tree .sampleData = .ok settings ∧
      Random.Seed.ofJson settings.sampleSeed = .ok (some seed)

theorem supply_source_reseeded {settings : Settings}
    (loaded : options.settingsFor tree .sampleData = .ok settings)
    (given : options.GivesIdentifiers tree) (entropy : Nat) :
    (options.reseeded entropy).supply.source settings = options.supply.source settings := by
  simp only [Sample.Supply.source, reseeded]
  rcases given with source | ⟨found, seed, loaded', seeded⟩
  case inl =>
    obtain ⟨source, held⟩ := Option.isSome_iff_exists.mp source
    simp only [held]
  case inr =>
    obtain rfl := Except.ok.inj (loaded.symm.trans loaded')
    simp only [seeded, bind, Except.bind, Option.getD_some]

theorem isRepeatable_of_gives
    (sample : makers.valueOf Kind.sampleData.tag = .ok Kind.sampleData.maker)
    (given : .sampleData ∈ options.kinds → options.GivesIdentifiers tree) :
    options.IsRepeatable makers tree target := by
  intro kind chosen entropy
  by_cases samples : kind = .sampleData
  case neg => exact artifactFor_withSupply fun same => absurd same samples
  case pos =>
    subst samples
    have loading : (options.reseeded entropy).settingsFor tree .sampleData =
      options.settingsFor tree .sampleData := rfl
    rw [artifactFor, artifactFor, generatorFor, generatorFor, loading]
    cases loaded : options.settingsFor tree .sampleData with
    | error fault => rfl
    | ok settings =>
        have same := supply_source_reseeded loaded (given chosen) entropy
        have reads : (options.reseeded entropy).supply.readDate = options.supply.readDate := rfl
        simp only [bind, Except.bind, Makers.create_of_valueOf sample, Kind.maker,
          Kind.generator_sampleData, supplyFor, if_true, sampleGenerator, same, reads]

theorem isRepeatable_builtin
    (given : .sampleData ∈ options.kinds → options.GivesIdentifiers tree) :
    options.IsRepeatable builtin tree target :=
  isRepeatable_of_gives rfl given

/-- Kinds generated one after the other from a source of identifiers that each takes over from the
one before; `leave` is what sample data leaves of it. -/
def addAllDrawing (options : Options) (makers : Makers) (tree : Tree) (target : Target)
    (leave : Sample.Supply → Sample.Supply) (bundle : Bundle) (supply : Sample.Supply)
    (kinds : List Kind) : Except Fault (Bundle × Sample.Supply) :=
  kinds.foldlM
    (fun state kind => do
      let result ← { options with supply := state.2 }.artifactFor makers tree target kind
      return (state.1.add kind result, if kind = .sampleData then leave state.2 else state.2))
    (bundle, supply)

theorem addAllDrawing_fst {kinds : List Kind} (distinct : kinds.Nodup)
    (leave : Sample.Supply → Sample.Supply) (bundle : Bundle) {supply : Sample.Supply}
    (unused : .sampleData ∈ kinds → supply = options.supply) :
    (options.addAllDrawing makers tree target leave bundle supply kinds).map Prod.fst =
      Bundle.addAll (options.artifactFor makers tree target) bundle kinds := by
  induction kinds generalizing bundle supply with
  | nil => rfl
  | cons kind rest ih =>
      obtain ⟨new, distinct⟩ := List.nodup_cons.mp distinct
      have same : { options with supply }.artifactFor makers tree target kind =
          options.artifactFor makers tree target kind :=
        artifactFor_withSupply fun sample => unused (sample ▸ List.mem_cons_self)
      rw [Bundle.addAll_cons, addAllDrawing, List.foldlM_cons, same]
      cases options.artifactFor makers tree target kind with
      | error fault => rfl
      | ok result =>
          refine ih distinct (bundle.add kind result) ?_
          intro later
          have other : kind ≠ .sampleData := fun sample => new (sample ▸ later)
          rw [if_neg other]
          exact unused (List.mem_cons_of_mem _ later)

/-! ## Bundles of options -/

theorem addAll_of_bundleOf {bundle : Bundle}
    (made : bundleOf makers tree options (some target) = .ok bundle) :
    Bundle.addAll (options.artifactFor makers tree target) {} options.kinds.eraseDups =
      .ok bundle := by
  rw [bundleOf] at made
  split at made
  · cases made
  · exact made

theorem ofResults_of_bundleOf {bundle : Bundle}
    (made : bundleOf makers tree options (some target) = .ok bundle) :
    ∃ results : List (Kind × Result), results.map Prod.fst = options.kinds.eraseDups ∧
      (∀ entry ∈ results, options.artifactFor makers tree target entry.1 = .ok entry.2) ∧
      Bundle.ofResults results = bundle :=
  Bundle.exists_results (addAll_of_bundleOf made)

theorem covers_of_bundleOf {bundle : Bundle}
    (made : bundleOf makers tree options (some target) = .ok bundle) :
    bundle.Covers (options.kinds.eraseDups.map Kind.tag) := by
  obtain ⟨results, kinds, -, rfl⟩ := ofResults_of_bundleOf made
  have distinct : (results.map Prod.fst).Nodup := kinds ▸ nodup_eraseDups options.kinds
  rw [← kinds, List.map_map]
  exact Bundle.ofResults_covers distinct

theorem get?_artifacts_of_bundleOf {bundle : Bundle}
    (made : bundleOf makers tree options (some target) = .ok bundle) {kind : Kind}
    (chosen : kind ∈ options.kinds) :
    ∃ result, options.artifactFor makers tree target kind = .ok result ∧
      Keyed.get? bundle.artifacts kind.tag = result.content? := by
  obtain ⟨results, kinds, all, rfl⟩ := ofResults_of_bundleOf made
  have distinct : (results.map Prod.fst).Nodup := kinds ▸ nodup_eraseDups options.kinds
  have listed : kind ∈ results.map Prod.fst := kinds ▸ List.mem_eraseDups.mpr chosen
  obtain ⟨⟨kind, result⟩, mem, rfl⟩ := List.mem_map.mp listed
  refine ⟨result, all _ mem, ?_⟩
  rw [Bundle.ofResults_eq, Bundle.ofPairs_column distinct]
  exact Bundle.get?_column distinct Result.content? mem

end Options

/--
A bundle that is returned holds, for just the kinds that the choices name, each once and in their
order, an artifact or an error.  Each artifact is the one that its kind has alone, however the other
kinds are chosen and whatever sample data leaves of its source of identifiers, as long as no seed
is drawn for it.
-/
theorem bundleOf_covers {makers : Makers} {tree : Tree} {options : Options} {target : Target}
    {choices : List Choice} {bundle : Bundle}
    (chosen : choices.mapM (Choice.parse makers) = .ok options.kinds)
    (repeatable : options.IsRepeatable makers tree target)
    (made : bundleOf makers tree options (some target) = .ok bundle) :
    (∃ tags, choices.mapM (Choice.resolve makers) = .ok tags ∧ bundle.Covers tags.eraseDups) ∧
      (bundle.success = true ↔ bundle.errors = []) ∧
      (∀ kind ∈ options.kinds, ∀ entropy content,
        Keyed.get? bundle.artifacts kind.tag = some content ↔
          (options.reseeded entropy).MakesAlone makers tree target kind content) ∧
      (∀ kinds entropy other,
        bundleOf makers tree { options.reseeded entropy with kinds } (some target) = .ok other →
        ∀ kind ∈ options.kinds, kind ∈ kinds →
          Keyed.get? other.artifacts kind.tag = Keyed.get? bundle.artifacts kind.tag) ∧
      ∀ leave,
        (options.addAllDrawing makers tree target leave {} options.supply
          options.kinds.eraseDups).map Prod.fst = .ok bundle := by
  refine ⟨⟨_, Choice.mapM_resolve chosen, ?_⟩, List.isEmpty_iff, ?_, ?_, ?_⟩
  · rw [eraseDups_map Kind.tag_injective]
    exact Options.covers_of_bundleOf made
  · intro kind mem entropy content
    obtain ⟨result, generated, held⟩ := Options.get?_artifacts_of_bundleOf made mem
    rw [held, Options.makesAlone_iff, repeatable kind mem entropy, generated,
      Result.content?_eq_some_iff]
    simp only [Except.ok.injEq]
  · intro kinds entropy other others kind mem among
    obtain ⟨result, generated, held⟩ := Options.get?_artifacts_of_bundleOf made mem
    obtain ⟨result', generated', held'⟩ := Options.get?_artifacts_of_bundleOf others among
    have same : (options.reseeded entropy).artifactFor makers tree target kind = .ok result' :=
      generated'
    rw [repeatable kind mem entropy, generated] at same
    rw [held, held', Except.ok.inj same]
  · intro leave
    rw [Options.addAllDrawing_fst (nodup_eraseDups _) leave {} fun _ => rfl]
    exact Options.addAll_of_bundleOf made

def unrenderablePages : Makers :=
  let maker : Maker :=
    { Kind.page.maker with
      make := fun settings _ => do
        let generator ← pageGenerator settings
        return { generator with text := fun _ => .error (.template "page" "lang") } }
  (builtin.register Kind.page.tag (some maker) [] true).1

def tokens : Table := { name := "tokens", fields := [{ name := "id", type := .uuid }] }

def tokenOptions : Options :=
  { kinds := [.sampleData, .page, .sampleData]
    sampleRows := .int 2
    supply := { source? := some (.listed ["a", "b"]) } }

def tokenBundle : Bundle :=
  { artifacts := [("sample_data", "\"id\"\n\"a\"\n\"b\"\n")]
    filenames := [("sample_data", "tokens_sample.csv")]
    mimeTypes := [("sample_data", "text/csv")]
    warnings := [("sample_data", ["Table 'tokens' has no primary key"]), ("page", [])]
    errors := [("page", "Artifact generation failed: Failed to render template page: lang")] }

theorem bundleOf_covers_tokens :
    bundleOf unrenderablePages {} tokenOptions (some (.table tokens)) = .ok tokenBundle ∧
      tokenBundle.Covers ["sample_data", "page"] ∧
      (tokenOptions.reseeded 1).MakesAlone unrenderablePages {} (.table tokens) .sampleData
        "\"id\"\n\"a\"\n\"b\"\n" ∧
      (tokenOptions.addAllDrawing unrenderablePages {} (.table tokens) (fun _ => {}) {}
        tokenOptions.supply tokenOptions.kinds.eraseDups).map Prod.fst = .ok tokenBundle := by
  have chosen : [.named "samples", .itself .page, .named " Sample "].mapM
      (Choice.parse unrenderablePages) = .ok tokenOptions.kinds := rfl
  have repeatable : tokenOptions.IsRepeatable unrenderablePages {} (.table tokens) :=
    Options.isRepeatable_of_gives rfl fun _ => .inl rfl
  have made : bundleOf unrenderablePages {} tokenOptions (some (.table tokens)) =
      .ok tokenBundle := by
    have found : (bundleOf unrenderablePages {} tokenOptions (some (.table tokens))).toOption =
        some tokenBundle := by decide +kernel
    cases outcome : bundleOf unrenderablePages {} tokenOptions (some (.table tokens)) with
    | error fault =>
        rw [outcome] at found
        cases found
    | ok bundle =>
        rw [outcome] at found
        rw [Option.some.inj found]
  obtain ⟨⟨tags, resolved, covers⟩, -, alone, -, drawing⟩ :=
    bundleOf_covers chosen repeatable made
  have tags_eq : tags = ["sample_data", "page", "sample_data"] :=
    Except.ok.inj (resolved.symm.trans (Choice.mapM_resolve chosen))
  refine ⟨made, ?_, ?_, drawing fun _ => {}⟩
  · rw [tags_eq] at covers
    exact covers
  · exact (alone .sampleData (by decide) 1 _).mp (by decide)

end Artifact

end SchemaArtifacts
