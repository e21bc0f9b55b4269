import SchemaArtifacts.Proofs.CommandLine.WrittenFiles
import SchemaArtifacts.Proofs.Files.Places

/-!
# Places that a run changes

A run that is told to write to a directory changes no file but those of the artifacts that it is
asked for.  The file of an artifact is directly inside of the directory if the name of the target
has no slash or does not count for the name of the file.  A slash in the name may lead the file
elsewhere.
-/

namespace SchemaArtifacts.CommandLine

open Artifact Files Sample

section Writing

variable {directory : Path} {bundle : Bundle}

theorem node?_add (written : Written) (path : Path) (kind content : String) (place : Path) :
    (written.add path kind content).tree.node? place = written.tree.node? place ∨
      (place = path.place ∧
        (written.add path kind content).tree.node? place = some (.file content)) := by
  cases faulty : written.fault with
  | some fault => exact .inl (by simp [Written.add, faulty])
  | none =>
      cases done : written.tree.write path content with
      | error fault => exact .inl (by simp [Written.add, faulty, done])
      | ok later =>
          have same : (written.add path kind content).tree = later := by
            simp [Written.add, faulty, done]
          rw [same, Tree.node?_write done]
          split
          case isTrue here => exact .inr ⟨here, rfl⟩
          case isFalse => exact .inl rfl

theorem node?_foldl_add (entries : List (String × String)) (written : Written) (place : Path) :
    (entries.foldl (fun written entry => written.add
        (directory.below (Path.ofText (filenameOf bundle entry.1))) entry.1 entry.2)
        written).tree.node? place = written.tree.node? place ∨
      ∃ entry ∈ entries,
        place = (directory.below (Path.ofText (filenameOf bundle entry.1))).place ∧
        (entries.foldl (fun written entry => written.add
          (directory.below (Path.ofText (filenameOf bundle entry.1))) entry.1 entry.2)
          written).tree.node? place = some (.file entry.2) := by
  induction entries generalizing written with
  | nil => exact .inl rfl
  | cons entry rest ih =>
      rw [List.foldl_cons]
      -- The last of the files that are written to a place stays there.
      rcases ih (written.add (directory.below (Path.ofText (filenameOf bundle entry.1))) entry.1
        entry.2) with same | ⟨other, mem, here, held⟩
      · rcases node?_add written (directory.below (Path.ofText (filenameOf bundle entry.1)))
          entry.1 entry.2 place with kept | ⟨here, held⟩
        · exact .inl (same.trans kept)
        · exact .inr ⟨entry, List.mem_cons_self, here, same.trans held⟩
      · exact .inr ⟨other, List.mem_cons_of_mem _ mem, here, held⟩

theorem keeps_or_writes (tree : Tree) (directory : Path) (bundle : Bundle) (place : Path) :
    tree.Keeps (writeBundle tree directory bundle).tree place ∨
      ∃ file ∈ filesOf bundle, place = (directory.below (Path.ofText file.1)).place ∧
        (writeBundle tree directory bundle).tree.node? place = some (.file file.2) := by
  rw [writeBundle]
  cases made : tree.makeDirectories directory with
  | error fault => exact .inl (.refl tree place)
  | ok start =>
      rcases @node?_foldl_add directory bundle bundle.artifacts { tree := start } place with
        same | ⟨entry, mem, here, held⟩
      · exact .inl ((Tree.keeps_makeDirectories made place).trans (.inl same))
      · exact .inr ⟨(filenameOf bundle entry.1, entry.2), List.mem_map_of_mem mem, here, held⟩

end Writing

namespace Order

def placeOf (order : Order) (filename : String) : Path :=
  ((Path.ofText order.directory).below (Path.ofText filename)).place

def wayTo (order : Order) (filename : String) : Path :=
  ((Path.ofText order.directory).below (Path.ofText filename).parent).place

def base (order : Order) : Path := (Path.ofText order.directory).place

/-- An order asks for an artifact, which is made with a name for its file and a text. -/
def Makes (order : Order) (tree : Tree) (response : Loading.Response)
    (readDate : DateReader) (target : Target) (kind : Kind) (file : String × String) : Prop :=
  order.chooseTarget tree response = .ok target ∧
    ∃ options, order.options tree readDate = .ok options ∧ kind ∈ options.kinds ∧
      ∃ warnings details,
        options.artifactFor builtin tree target kind = .ok (.made file.2 warnings details) ∧
        details.filename = file.1

/-- The files stay as they are, or a bundle is written, however the writing ends. -/
def Leaves (order : Order) (tree : Tree) (response : Loading.Response)
    (readDate : DateReader) (after : Tree) : Prop :=
  after = tree ∨
    ∃ target options bundle, order.chooseTarget tree response = .ok target ∧
      order.options tree readDate = .ok options ∧
      bundleOf builtin tree options (some target) = .ok bundle ∧
      after = (writeBundle tree (Path.ofText order.directory) bundle).tree

end Order

section Orders

variable {order : Order} {tree : Tree} {response : Loading.Response} {readDate : DateReader}

theorem exists_made_of_mem_filesOf {options : Options} {target : Target} {bundle : Bundle}
    (bundled : bundleOf builtin tree options (some target) = .ok bundle)
    {file : String × String} (mem : file ∈ filesOf bundle) :
    ∃ kind ∈ options.kinds, ∃ warnings details,
      options.artifactFor builtin tree target kind = .ok (.made file.2 warnings details) ∧
      details.filename = file.1 := by
  obtain ⟨results, kinds, generated, rfl⟩ := Options.ofResults_of_bundleOf bundled
  have distinct : (results.map Prod.fst).Nodup := kinds ▸ nodup_eraseDups options.kinds
  rw [filesOf_ofResults distinct] at mem
  obtain ⟨⟨kind, result⟩, among, found⟩ := List.mem_filterMap.mp mem
  have listed : kind ∈ results.map Prod.fst := List.mem_map_of_mem among
  have chosen : kind ∈ options.kinds := List.mem_eraseDups.mp (kinds ▸ listed)
  have made := generated _ among
  cases result with
  | failed message warnings => cases found
  | made content warnings details =>
      obtain rfl := Option.some.inj found
      exact ⟨kind, chosen, warnings, details, made, rfl⟩

theorem Outcome.tree_failed (tree : Tree) (output : List String) :
    (Outcome.failed tree output).tree = tree := rfl

theorem tree_of_orderFault {fault : OrderFault} {before : List String} {outcome : Outcome}
    (ended : fault.outcome tree before = .ok outcome) : outcome.tree = tree := by
  unfold OrderFault.outcome at ended
  split at ended
  · cases ended
    exact Outcome.tree_failed _ _
  · cases ended
  · cases ended
    exact Outcome.tree_failed _ _

theorem tree_of_deliver {bundle : Bundle} {outcome : Outcome}
    (delivered : deliver order tree bundle = .ok outcome) :
    outcome.tree = tree ∨
      outcome.tree = (writeBundle tree (Path.ofText order.directory) bundle).tree := by
  by_cases printed : order.directory = ""
  · rw [deliver, if_pos printed] at delivered
    cases delivered
    exact .inl rfl
  · rw [deliver, if_neg printed] at delivered
    dsimp only at delivered
    split at delivered
    · cases delivered
      exact .inr rfl
    · cases delivered
    · cases delivered
      exact .inr (Outcome.tree_failed _ _)

theorem leaves_of_generate {outcome : Outcome}
    (ran : generate order tree response readDate = .ok outcome) :
    order.Leaves tree response readDate outcome.tree := by
  unfold generate at ran
  dsimp only at ran
  split at ran
  · exact .inl (tree_of_orderFault ran)
  · rename_i target options requested
    obtain ⟨_, chosen, requested⟩ := bind_eq_ok_iff.mp requested
    obtain ⟨_, optioned, requested⟩ := bind_eq_ok_iff.mp requested
    cases requested
    split at ran
    · exact .inl (tree_of_orderFault ran)
    · rename_i bundle bundled
      obtain ⟨delivered, wrote, rfl⟩ := map_eq_ok_iff.mp ran
      rcases tree_of_deliver wrote with same | same
      · exact .inl same
      · exact .inr ⟨target, options, bundle, chosen, optioned, bundled, same⟩

theorem Order.Leaves.keeps_or_makes {after : Tree}
    (left : order.Leaves tree response readDate after) (place : Path) :
    tree.Keeps after place ∨
      ∃ target kind file, order.Makes tree response readDate target kind file ∧
      place = order.placeOf file.1 ∧ after.node? place = some (.file file.2) := by
  rcases left with rfl | ⟨target, options, bundle, chosen, optioned, bundled, rfl⟩
  · exact .inl (.refl after place)
  · rcases keeps_or_writes tree (Path.ofText order.directory) bundle place with
      kept | ⟨file, mem, here, held⟩
    · exact .inl kept
    · obtain ⟨kind, among, made⟩ := exists_made_of_mem_filesOf bundled mem
      exact .inr ⟨target, kind, file, ⟨chosen, options, optioned, among, made⟩, here, held⟩

section Makes

variable {target : Target} {kind : Kind} {file : String × String}
  (makes : order.Makes tree response readDate target kind file)
include makes

theorem Order.Makes.exists_generator : ∃ settings supply generator,
    kind.generator settings supply = .ok generator ∧ file.1 = generator.filename target.name := by
  obtain ⟨-, options, -, -, warnings, details, made, named⟩ := makes
  rw [← named]
  exact exists_generator_of_made made

theorem Order.Makes.isIn_iff :
    (order.placeOf file.1).IsIn order.base ↔ order.wayTo file.1 = order.base := by
  obtain ⟨_, _, generator, created, named⟩ := makes.exists_generator
  obtain ⟨init, last, part, cut⟩ := Kind.exists_parts_filename created target.name
  rw [← named] at cut
  exact Path.isIn_place_below_iff cut part

theorem Order.Makes.isIn (plain : kind.hasFixedName = true ∨ '/' ∉ target.name.toList) :
    (order.placeOf file.1).IsIn order.base := by
  obtain ⟨_, _, generator, created, named⟩ := makes.exists_generator
  have part : Path.IsPart file.1 := by
    rw [named]
    rcases plain with fixed | plain
    · exact Kind.isPart_filename_of_hasFixedName created fixed target.name
    · exact Kind.isPart_filename created plain
  exact Path.isIn_place_below_ofText (Path.ofText order.directory) part

end Makes

end Orders

/--
Whatever a run leaves, and wherever its writing was cut short, every place holds what it held, or a
directory that was made where nothing was, or the text of an artifact that was asked for.  That
place is directly inside of the directory just if the way of the file's name leads back there; so
it is if the target's name has no slash, and for kinds whose files have one name.
-/
theorem run_keeps_places_elsewhere {arguments : List String} {order : Order} {tree : Tree}
    {response : Loading.Response} {readDate : DateReader}
    (asked : readRequest arguments = .ok (.generate order)) :
    (∀ outcome, run arguments tree response readDate = .ok (.returned outcome) →
        order.Leaves tree response readDate outcome.tree) ∧
      (∀ after, order.Leaves tree response readDate after → ∀ place,
        tree.Keeps after place ∨
          ∃ target kind file, order.Makes tree response readDate target kind file ∧
          place = order.placeOf file.1 ∧ after.node? place = some (.file file.2)) ∧
      ∀ target kind file, order.Makes tree response readDate target kind file →
        ((order.placeOf file.1).IsIn order.base ↔ order.wayTo file.1 = order.base) ∧
        (kind.hasFixedName = true ∨ '/' ∉ target.name.toList →
          (order.placeOf file.1).IsIn order.base) := by
  refine ⟨?_, fun after left place => left.keeps_or_makes place,
    fun target kind file makes => ⟨makes.isIn_iff, makes.isIn⟩⟩
  intro outcome ran
  rw [run, asked] at ran
  obtain ⟨found, ran, same⟩ := map_eq_ok_iff.mp ran
  cases same
  exact leaves_of_generate ran

/-- A name without a slash keeps all files in the directory. -/
theorem run_keeps_places_elsewhere_shop :
    readRequest (shopArguments "build/out") = .ok (.generate (shopOrder "build/out")) ∧
    ∃ outcome, run (shopArguments "build/out") shopTree unasked unread = .ok (.returned outcome) ∧
      ∀ place, shopTree.Keeps outcome.tree place ∨
        place.IsIn { parts := ["build", "out"] } := by
  have asked := shop_asked "build/out" (by decide)
  obtain ⟨left, kept, inside⟩ := @run_keeps_places_elsewhere _ _ shopTree unasked unread asked
  obtain ⟨outcome, ran, -⟩ := shop_returned
  obtain ⟨target, -, chosen, -, named, -⟩ := shop_generated "build/out" (by decide)
  refine ⟨asked, outcome, ran, fun place => (kept _ (left outcome ran) place).imp_right ?_⟩
  rintro ⟨other, kind, file, makes, rfl, -⟩
  obtain rfl := Except.ok.inj (chosen.symm.trans makes.1)
  have base : (shopOrder "build/out").base = { parts := ["build", "out"] } := by decide
  rw [← base]
  exact (inside target kind file makes).2 (.inr (by rw [named]; decide))

def climbingTree : Tree where
  nodes := [({ parts := ["shop.json"] }, .file "\x7b\"name\": \"../shop\"\x7d")]

def climbingOrder : Order := { shopOrder "out" with artifacts := "csv" }

def climbingArguments : List String := ["generate", "shop.json", "-a", "csv", "-o", "out"]

theorem climbing_asked : readRequest climbingArguments = .ok (.generate climbingOrder) := by
  have checked : (readRequest climbingArguments).toOption.any
      (decide <| · = .generate climbingOrder) = true := by
    decide +kernel
  obtain ⟨request, asked, same⟩ := exists_ok_of_any checked
  rw [asked, of_decide_eq_true same]

/-- The file is made beside the directory, where nothing was. -/
theorem run_writes_beside_directory :
    readRequest climbingArguments = .ok (.generate climbingOrder) ∧
    climbingOrder.base = { parts := ["out"] } ∧
    ∃ outcome, run climbingArguments climbingTree unasked unread = .ok (.returned outcome) ∧
      outcome.code = 0 ∧ ∃ place, ¬ climbingTree.Keeps outcome.tree place ∧
        ¬ place.IsIn climbingOrder.base := by
  have base : climbingOrder.base = { parts := ["out"] } := by decide
  obtain ⟨outcome, ran, checked⟩ :
      ∃ outcome, run climbingArguments climbingTree unasked unread = .ok (.returned outcome) ∧
        (decide (outcome.code = 0) &&
          decide (¬ climbingTree.Keeps outcome.tree { parts := ["shop.csv"] })) = true :=
    exists_returned (by decide +kernel)
  obtain ⟨success, changed⟩ := Bool.and_eq_true_iff.mp checked
  refine ⟨climbing_asked, base, outcome, ran, of_decide_eq_true success,
    { parts := ["shop.csv"] }, of_decide_eq_true changed, ?_⟩
  rintro ⟨name, part, same⟩
  rw [base, Path.step_of_isPart _ part] at same
  simp at same

end SchemaArtifacts.CommandLine
