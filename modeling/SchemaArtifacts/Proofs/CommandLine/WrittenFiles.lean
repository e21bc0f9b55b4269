import SchemaArtifacts.CommandLine.Program
import SchemaArtifacts.Proofs.Artifact.Bundle
import SchemaArtifacts.Proofs.Artifact.Filenames

/-!
# Files of a successful run

A run that is told to write to a directory and ends with success leaves there the text of every
chosen kind, under the name that its generator gives.  No file is written over by another kind's.
-/

namespace SchemaArtifacts.CommandLine

open Artifact Files Sample

def filesOf (bundle : Bundle) : List (String × String) :=
  bundle.artifacts.map fun (kind, content) => (filenameOf bundle kind, content)

def fileOf? : Result → Option (String × String)
  | .made content _ details => some (details.filename, content)
  | .failed _ _ => none

section Bundles

variable {results : List (Kind × Result)}

theorem filesOf_ofResults (distinct : (results.map Prod.fst).Nodup) :
    filesOf (Bundle.ofResults results) = results.filterMap fun entry => fileOf? entry.2 := by
  have filenames : ∀ entry ∈ results, ∀ content warnings details,
      entry.2 = .made content warnings details →
        filenameOf (Bundle.ofResults results) entry.1.tag = details.filename := by
    intro entry mem content warnings details made
    simp only [filenameOf, Bundle.ofResults_eq, Bundle.ofPairs_column distinct,
      Bundle.get?_column distinct _ mem, made, Result.filename?, Option.getD_some]
  have artifacts : (Bundle.ofResults results).artifacts =
      Bundle.column Result.content? results := by
    rw [Bundle.ofResults_eq, Bundle.ofPairs_column distinct]
  rw [filesOf, artifacts, Bundle.column, List.map_filterMap]
  refine List.filterMap_congr fun entry mem => ?_
  cases made : entry.2 with
  | made content warnings details =>
      simp [Result.content?, fileOf?, filenames entry mem content warnings details made]
  | failed message warnings => simp [Result.content?, fileOf?]

theorem exists_made_of_success (distinct : (results.map Prod.fst).Nodup)
    (success : (Bundle.ofResults results).success = true) :
    ∀ entry ∈ results, ∃ content warnings details, entry.2 = .made content warnings details := by
  have errors : Bundle.column Result.error? results = [] := by
    simpa [Bundle.success, Bundle.ofResults_eq, Bundle.ofPairs_column distinct] using success
  intro entry mem
  cases made : entry.2 with
  | made content warnings details => exact ⟨content, warnings, details, rfl⟩
  | failed message warnings =>
      have listed := Bundle.get?_column distinct Result.error? mem
      rw [errors, made] at listed
      cases listed

variable {options : Options} {tree : Tree} {target : Target}

theorem exists_generator_of_fileOf? {kind : Kind} {result : Result} {file : String × String}
    (generated : options.artifactFor builtin tree target kind = .ok result)
    (found : fileOf? result = some file) :
    ∃ settings supply generator, kind.generator settings supply = .ok generator ∧
      file.1 = generator.filename target.name := by
  cases result with
  | failed message warnings => cases found
  | made content warnings details =>
      obtain rfl := Option.some.inj found
      exact exists_generator_of_made generated

theorem isPart_and_nodup_files (plain : '/' ∉ target.name.toList)
    (distinct : (results.map Prod.fst).Nodup)
    (generated : ∀ entry ∈ results,
      options.artifactFor builtin tree target entry.1 = .ok entry.2) :
    (∀ file ∈ results.filterMap fun entry => fileOf? entry.2, Path.IsPart file.1) ∧
      ((results.filterMap fun entry => fileOf? entry.2).map Prod.fst).Nodup := by
  have named : ∀ entry ∈ results, ∀ file, fileOf? entry.2 = some file →
      ∃ settings supply generator, entry.1.generator settings supply = .ok generator ∧
        file.1 = generator.filename target.name :=
    fun entry mem _ => exists_generator_of_fileOf? (generated entry mem)
  constructor
  · intro file mem
    obtain ⟨entry, listed, found⟩ := List.mem_filterMap.mp mem
    obtain ⟨_, _, generator, created, name⟩ := named entry listed file found
    rw [name]
    exact Kind.isPart_filename created plain
  · rw [List.Nodup, List.pairwise_map] at distinct ⊢
    refine List.Pairwise.filterMap _ ?_ (List.Pairwise.and_mem.mp distinct)
    rintro first second ⟨memFirst, memSecond, differ⟩ file found other found'
    obtain ⟨_, _, _, created, name⟩ := named first memFirst file found
    obtain ⟨_, _, _, created', name'⟩ := named second memSecond other found'
    rw [name, name']
    exact Kind.filename_ne differ created created' target.name

end Bundles

section Writing

variable {tree : Tree} {directory : Path} {bundle : Bundle}

theorem write_of_fault_add {written : Written} {path : Path} {kind content : String}
    (done : (written.add path kind content).fault = none) :
    written.fault = none ∧
      written.tree.write path content = .ok (written.add path kind content).tree := by
  cases faulty : written.fault with
  | some fault => simp [Written.add, faulty] at done
  | none =>
      cases written' : written.tree.write path content with
      | error fault => simp [Written.add, faulty, written'] at done
      | ok later => simp [Written.add, faulty, written']

theorem writeAll_of_fault_foldl {entries : List (String × String)} {written : Written}
    (done : (entries.foldl (fun written entry => written.add
      (directory.below (Path.ofText (filenameOf bundle entry.1))) entry.1 entry.2)
      written).fault = none) :
    written.fault = none ∧
      written.tree.writeAll directory
          (entries.map fun entry => (filenameOf bundle entry.1, entry.2)) =
        .ok (entries.foldl (fun written entry => written.add
          (directory.below (Path.ofText (filenameOf bundle entry.1))) entry.1 entry.2)
          written).tree := by
  induction entries generalizing written with
  | nil => exact ⟨done, rfl⟩
  | cons entry rest ih =>
      obtain ⟨faultless, others⟩ := ih done
      obtain ⟨start, first⟩ := write_of_fault_add faultless
      exact ⟨start, Tree.writeAll_cons_eq_ok_iff.mpr ⟨_, first, others⟩⟩

theorem writeAll_of_writeBundle (done : (writeBundle tree directory bundle).fault = none) :
    ∃ made, tree.makeDirectories directory = .ok made ∧
      made.writeAll directory (filesOf bundle) = .ok (writeBundle tree directory bundle).tree := by
  rw [writeBundle] at done ⊢
  cases made : tree.makeDirectories directory with
  | error fault => simp [made] at done
  | ok start =>
      rw [made] at done
      exact ⟨start, rfl, (writeAll_of_fault_foldl done).2⟩

end Writing

/-! ## Runs that succeed -/

theorem ne_zero_of_orderFault {fault : OrderFault} {tree : Tree} {before : List String}
    {outcome : Outcome} (ended : fault.outcome tree before = .ok outcome) : outcome.code ≠ 0 := by
  unfold OrderFault.outcome at ended
  split at ended
  · cases ended
    exact Nat.one_ne_zero
  · cases ended
  · cases ended
    exact Nat.one_ne_zero

theorem written_of_deliver {order : Order} {tree : Tree} {bundle : Bundle} {outcome : Outcome}
    (given : order.directory ≠ "") (delivered : deliver order tree bundle = .ok outcome)
    (success : outcome.code = 0) :
    bundle.success = true ∧
      (writeBundle tree (Path.ofText order.directory) bundle).fault = none ∧
      outcome.tree = (writeBundle tree (Path.ofText order.directory) bundle).tree := by
  rw [deliver, if_neg given] at delivered
  dsimp only at delivered
  split at delivered
  · rename_i faultless
    cases delivered
    refine ⟨?_, faultless, rfl⟩
    by_contra failed
    simp [failed, failureCode] at success
  · cases delivered
  · cases delivered
    cases success

theorem parts_of_generate {order : Order} {tree : Tree} {response : Loading.Response}
    {readDate : Sample.DateReader} {outcome : Outcome} (given : order.directory ≠ "")
    (ran : generate order tree response readDate = .ok outcome) (success : outcome.code = 0) :
    ∃ target options bundle, order.chooseTarget tree response = .ok target ∧
      order.options tree readDate = .ok options ∧
      bundleOf builtin tree options (some target) = .ok bundle ∧ bundle.success = true ∧
      (writeBundle tree (Path.ofText order.directory) bundle).fault = none ∧
      outcome.tree = (writeBundle tree (Path.ofText order.directory) bundle).tree := by
  unfold generate at ran
  dsimp only at ran
  split at ran
  · exact absurd success (ne_zero_of_orderFault ran)
  · rename_i target options requested
    obtain ⟨_, chosen, requested⟩ := bind_eq_ok_iff.mp requested
    obtain ⟨_, optioned, requested⟩ := bind_eq_ok_iff.mp requested
    cases requested
    split at ran
    · exact absurd success (ne_zero_of_orderFault ran)
    · rename_i bundle bundled
      obtain ⟨delivered, wrote, rfl⟩ := map_eq_ok_iff.mp ran
      obtain ⟨made, faultless, same⟩ := written_of_deliver given wrote success
      exact ⟨target, options, bundle, chosen, optioned, bundled, made, faultless, same⟩

theorem find_of_generate {order : Order} {tree : Tree} {response : Loading.Response}
    {readDate : Sample.DateReader} {outcome : Outcome} (given : order.directory ≠ "")
    (plain : ∀ target, order.chooseTarget tree response = .ok target → '/' ∉ target.name.toList)
    (ran : generate order tree response readDate = .ok outcome) (success : outcome.code = 0) :
    ∃ target options, order.chooseTarget tree response = .ok target ∧
      order.options tree readDate = .ok options ∧
      ∀ kind ∈ options.kinds, ∃ content warnings details,
        options.artifactFor builtin tree target kind = .ok (.made content warnings details) ∧
        outcome.tree.find
            ((Path.ofText order.directory).below (Path.ofText details.filename)) =
          .ok (.file content) := by
  obtain ⟨target, options, bundle, chosen, optioned, bundled, succeeded, faultless, same⟩ :=
    parts_of_generate given ran success
  obtain ⟨results, kinds, generated, rfl⟩ := Options.ofResults_of_bundleOf bundled
  have distinct : (results.map Prod.fst).Nodup := kinds ▸ nodup_eraseDups options.kinds
  obtain ⟨start, -, written⟩ := writeAll_of_writeBundle faultless
  rw [filesOf_ofResults distinct, ← same] at written
  obtain ⟨parts, apart⟩ := isPart_and_nodup_files (plain target chosen) distinct generated
  refine ⟨target, options, chosen, optioned, fun kind mem => ?_⟩
  have listed : kind ∈ results.map Prod.fst := kinds ▸ List.mem_eraseDups.mpr mem
  obtain ⟨⟨kind, result⟩, among, rfl⟩ := List.mem_map.mp listed
  obtain ⟨content, warnings, details, rfl⟩ := exists_made_of_success distinct succeeded _ among
  have file : (details.filename, content) ∈ results.filterMap fun entry => fileOf? entry.2 :=
    List.mem_filterMap.mpr ⟨_, among, rfl⟩
  exact ⟨content, warnings, details, generated _ among,
    Tree.find_writeAll parts apart written (details.filename, content) file⟩

/--
A run that is told to write to a directory and that succeeds leaves there, for every chosen kind,
the text that is generated for it, under the name of its file.  The names of files for different
kinds differ whatever the target is called and however the kinds are set up.
-/
theorem run_writes_every_kind {arguments : List String} {order : Order} {tree : Tree}
    {response : Loading.Response} {readDate : Sample.DateReader} {outcome : Outcome}
    (asked : readRequest arguments = .ok (.generate order)) (given : order.directory ≠ "")
    (plain : ∀ target, order.chooseTarget tree response = .ok target → '/' ∉ target.name.toList)
    (ran : run arguments tree response readDate = .ok (.returned outcome))
    (success : outcome.code = 0) :
    (∃ target options, order.chooseTarget tree response = .ok target ∧
      order.options tree readDate = .ok options ∧
      ∀ kind ∈ options.kinds, ∃ content warnings details,
        options.artifactFor builtin tree target kind = .ok (.made content warnings details) ∧
        outcome.tree.find
            ((Path.ofText order.directory).below (Path.ofText details.filename)) =
          .ok (.file content)) ∧
      ∀ first second : Kind, first ≠ second → ∀ settings supply generator settings' supply' other,
        first.generator settings supply = .ok generator →
        second.generator settings' supply' = .ok other →
        ∀ name, generator.filename name ≠ other.filename name := by
  constructor
  · rw [run, asked] at ran
    obtain ⟨found, ran, same⟩ := map_eq_ok_iff.mp ran
    cases same
    exact find_of_generate given plain ran success
  · intro first second differ _ _ generator _ _ other created created' name
    exact Kind.filename_ne differ created created' name

theorem exists_ok_of_any {ε α : Type} {result : Except ε α} {holds : α → Bool}
    (checked : result.toOption.any holds = true) : ∃ value, result = .ok value ∧ holds value := by
  cases result with
  | error fault => cases checked
  | ok value => exact ⟨value, rfl, checked⟩

def shopTree : Tree where
  nodes :=
    [({ parts := ["shop.json"] },
      .file "\x7b\"name\": \"shop\", \"tables\": [\x7b\"name\": \"items\"\x7d]\x7d")]

def shopArguments (directory : String) : List String :=
  ["generate", "shop.json", "-a", "csv, ts, json", "-o", directory]

def shopOrder (directory : String) : Order where
  source := { file := "shop.json" }
  table := ""
  artifacts := "csv, ts, json"
  dialect := ""
  directory
  settings := ""
  sampleRows := none
  seed := none
  omitsComments := false
  isVerbose := false

def unasked : Loading.Response := .answered 200 "" ""

theorem shop_asked : ∀ directory ∈ ["", "build/out"],
    readRequest (shopArguments directory) = .ok (.generate (shopOrder directory)) := by
  have checked : ∀ directory ∈ ["", "build/out"],
      (readRequest (shopArguments directory)).toOption.any
        (decide <| · = .generate (shopOrder directory)) = true := by
    decide +kernel
  intro directory mem
  obtain ⟨request, asked, same⟩ := exists_ok_of_any (checked directory mem)
  rw [asked, of_decide_eq_true same]

def isReturned (holds : Outcome → Bool) : Ending → Bool
  | .returned outcome => holds outcome
  | .stopped _ _ _ => false

theorem exists_returned {arguments : List String} {tree : Tree} {holds : Outcome → Bool}
    (checked : (run arguments tree unasked unread).toOption.any (isReturned holds) = true) :
    ∃ outcome, run arguments tree unasked unread = .ok (.returned outcome) ∧ holds outcome := by
  obtain ⟨ending, ran, held⟩ := exists_ok_of_any checked
  cases ending with
  | returned outcome => exact ⟨outcome, ran, held⟩
  | stopped => cases held

theorem shop_returned :
    ∃ outcome, run (shopArguments "build/out") shopTree unasked unread = .ok (.returned outcome) ∧
      outcome.code = 0 := by
  obtain ⟨outcome, ran, success⟩ :
      ∃ outcome, run (shopArguments "build/out") shopTree unasked unread =
        .ok (.returned outcome) ∧ decide (outcome.code = 0) = true :=
    exists_returned (by decide +kernel)
  exact ⟨outcome, ran, of_decide_eq_true success⟩

def isNamed (filename : String) : Result → Bool
  | .made _ _ details => details.filename == filename
  | .failed _ _ => false

theorem shop_generated : ∀ directory ∈ ["", "build/out"], ∃ target options,
    (shopOrder directory).chooseTarget shopTree unasked = .ok target ∧
      (shopOrder directory).options shopTree unread = .ok options ∧ target.name = "shop" ∧
      options.kinds = [.csv, .typescript, .schemaJson] ∧
      ∃ content warnings details,
        options.artifactFor builtin shopTree target .csv = .ok (.made content warnings details) ∧
        details.filename = "shop.csv" := by
  have checked : ∀ directory ∈ ["", "build/out"],
      ((shopOrder directory).chooseTarget shopTree unasked).toOption.any (fun target =>
        ((shopOrder directory).options shopTree unread).toOption.any fun options =>
          decide (target.name = "shop") &&
            (decide (options.kinds = [.csv, .typescript, .schemaJson]) &&
              (options.artifactFor builtin shopTree target .csv).toOption.any
                (isNamed "shop.csv"))) = true := by
    decide +kernel
  intro directory mem
  obtain ⟨target, chosen, held⟩ := exists_ok_of_any (checked directory mem)
  obtain ⟨options, optioned, held⟩ := exists_ok_of_any held
  obtain ⟨named, held⟩ := Bool.and_eq_true_iff.mp held
  obtain ⟨kinds, held⟩ := Bool.and_eq_true_iff.mp held
  obtain ⟨result, generated, file⟩ := exists_ok_of_any held
  refine ⟨target, options, chosen, optioned, of_decide_eq_true named, of_decide_eq_true kinds, ?_⟩
  cases result with
  | made content warnings details =>
      exact ⟨content, warnings, details, generated, beq_iff_eq.mp file⟩
  | failed => cases file

theorem run_writes_every_kind_shop :
    ∃ outcome, run (shopArguments "build/out") shopTree unasked unread =
        .ok (.returned outcome) ∧ outcome.code = 0 ∧
      ∃ (target : Target) (options : Options),
        options.kinds = [.csv, .typescript, .schemaJson] ∧
        ∀ kind ∈ options.kinds, ∃ content warnings details,
          options.artifactFor builtin shopTree target kind =
            .ok (.made content warnings details) ∧
          outcome.tree.find
              ((Path.ofText "build/out").below (Path.ofText details.filename)) =
            .ok (.file content) := by
  obtain ⟨outcome, ran, success⟩ := shop_returned
  obtain ⟨target, options, chosen, optioned, named, kinds, -⟩ :=
    shop_generated "build/out" (by decide)
  have plain : ∀ target, (shopOrder "build/out").chooseTarget shopTree unasked =
      .ok target → '/' ∉ target.name.toList := by
    intro other chosen'
    obtain rfl := Except.ok.inj (chosen.symm.trans chosen')
    rw [named]
    decide
  obtain ⟨⟨target', options', chosen', optioned', found⟩, -⟩ :=
    run_writes_every_kind (shop_asked "build/out" (by decide)) (by decide) plain ran success
  obtain rfl := Except.ok.inj (optioned.symm.trans optioned')
  exact ⟨outcome, ran, success, target', options, kinds, found⟩

/-- A directory without a name is none, so that the artifacts are printed and not written. -/
theorem run_into_unnamed_directory :
    ∃ outcome, run (shopArguments "") shopTree unasked unread = .ok (.returned outcome) ∧
      outcome.code = 0 ∧
      ∃ target options content warnings details,
        (shopOrder "").chooseTarget shopTree unasked = .ok target ∧
        target.name = "shop" ∧
        (shopOrder "").options shopTree unread = .ok options ∧ .csv ∈ options.kinds ∧
        options.artifactFor builtin shopTree target .csv = .ok (.made content warnings details) ∧
        outcome.tree.find ((Path.ofText "").below (Path.ofText details.filename)) ≠
          .ok (.file content) := by
  obtain ⟨outcome, ran, checked⟩ :
      ∃ outcome, run (shopArguments "") shopTree unasked unread =
        .ok (.returned outcome) ∧
        (decide (outcome.code = 0) &&
          (outcome.tree.find ((Path.ofText "").below (Path.ofText "shop.csv"))).toOption.isNone) =
          true :=
    exists_returned (by decide +kernel)
  obtain ⟨success, absent⟩ := Bool.and_eq_true_iff.mp checked
  obtain ⟨target, options, chosen, optioned, named, kinds, generated⟩ :=
    shop_generated "" (by decide)
  obtain ⟨content, warnings, details, made, file⟩ := generated
  refine ⟨outcome, ran, of_decide_eq_true success, target, options, content, warnings, details,
    chosen, named, optioned, by simp [kinds], made, ?_⟩
  rintro there
  rw [file] at there
  rw [there] at absent
  cases absent

end SchemaArtifacts.CommandLine
