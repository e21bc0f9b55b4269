import SchemaArtifacts.Fault
import SchemaArtifacts.Proofs.Files.ReadAfterWrite

/-!
# Several files in a directory

Files under different names in one directory do not touch each other, so all that is written there
is found there.
-/

namespace SchemaArtifacts.Files

namespace Path

/-- A name that leads one level down. -/
structure IsPart (name : String) : Prop where
  unbroken : '/' ∉ name.toList
  proper : name ≠ "" ∧ name ≠ "." ∧ name ≠ up

theorem isPart_of_length {name : String} (unbroken : '/' ∉ name.toList) (long : 3 ≤ name.length) :
    IsPart name := by
  refine ⟨unbroken, ?_, ?_, ?_⟩ <;>
  · rintro rfl
    revert long
    decide

theorem ofChars_of_not_mem {cs : List Char} (unbroken : '/' ∉ cs) : Root.ofChars cs = .start := by
  unfold Root.ofChars
  split <;> simp_all

theorem IsPart.ofText {name : String} (part : IsPart name) :
    Path.ofText name = { parts := [name] } := by
  obtain ⟨unbroken, empty, point, -⟩ := part
  simp [Path.ofText, ofChars_of_not_mem unbroken, List.splitOn_eq_singleton unbroken, empty, point]

theorem below_relative (directory : Path) (parts : List String) :
    directory.below { parts } = { directory with parts := directory.parts ++ parts } := rfl

end Path

namespace Tree

variable {tree later : Tree}

theorem find_eq_ok_iff {path : Path} {node : Node} :
    tree.find path = .ok node ↔
      ∃ place, tree.locate path = .ok place ∧ tree.node? place = some node := by
  cases located : tree.locate path with
  | error fault => simp [find, located, bind, Except.bind]
  | ok place =>
      cases there : tree.node? place with
      | none => simp [find, located, bind, Except.bind, there]
      | some held => simp [find, located, bind, Except.bind, there, pure, Except.pure]

theorem exists_step_of_follow {parts : List String} {part : String} {start place : Path}
    (way : tree.follow start (parts ++ [part]) = .ok place) :
    ∃ base : Path, place = base.step part := by
  induction parts generalizing start with
  | nil =>
      rw [List.nil_append, follow] at way
      split at way
      · cases way
      · cases way
      · exact ⟨start, (Except.ok.inj way).symm⟩
  | cons first parts ih =>
      rw [List.cons_append, follow] at way
      split at way
      · cases way
      · cases way
      · exact ih way

theorem getLast?_of_locate {directory place : Path} {name : String} (part : Path.IsPart name)
    (located : tree.locate (directory.below (Path.ofText name)) = .ok place) :
    place.parts.getLast? = some name := by
  rw [part.ofText, Path.below_relative, locate] at located
  split at located
  · cases located
  · split at located
    · rename_i way
      cases located
      obtain ⟨base, rfl⟩ := exists_step_of_follow way
      rw [Path.step, if_neg part.proper.2.2]
      exact List.getLast?_concat ..
    · cases located
    · cases located

theorem find_write {path : Path} {text : String} (written : tree.write path text = .ok later) :
    later.find path = .ok (.file text) := by
  obtain ⟨_, same, found⟩ := ((exists_write_iff text).mp ⟨later, written⟩).find_write text
  obtain rfl := Except.ok.inj (written.symm.trans same)
  exact found

theorem find_write_of_ne {path other : Path} {text : String} {node : Node}
    (found : tree.find path = .ok node) (written : tree.write other text = .ok later)
    (apart : ∀ place, tree.locate path = .ok place → tree.locate other ≠ .ok place) :
    later.find path = .ok node := by
  obtain ⟨place, located, held⟩ := find_eq_ok_iff.mp found
  obtain ⟨target, locatedOther, notDirectory⟩ := (exists_write_iff text).mp ⟨later, written⟩
  rw [write_of_locate locatedOther notDirectory] at written
  obtain rfl := Except.ok.inj written
  refine find_eq_ok_iff.mpr ⟨place, locate_put notDirectory _ located, ?_⟩
  have differs : place ≠ target := by
    rintro rfl
    exact apart place located locatedOther
  rw [node?_put tree (below_of_notDirectory notDirectory), if_neg differs, held]

def writeAll (tree : Tree) (directory : Path) (files : List (String × String)) :
    Except FileFault Tree :=
  files.foldlM (fun tree file => tree.write (directory.below (Path.ofText file.1)) file.2) tree

theorem writeAll_cons_eq_ok_iff {directory : Path} {file : String × String}
    {rest : List (String × String)} :
    tree.writeAll directory (file :: rest) = .ok later ↔
      ∃ next, tree.write (directory.below (Path.ofText file.1)) file.2 = .ok next ∧
        next.writeAll directory rest = .ok later := by
  rw [writeAll, List.foldlM_cons, bind_eq_ok_iff]
  rfl

theorem find_writeAll_of_not_mem {directory : Path} {files : List (String × String)}
    (parts : ∀ file ∈ files, Path.IsPart file.1) {name : String} (part : Path.IsPart name)
    (absent : name ∉ files.map Prod.fst) {node : Node}
    (found : tree.find (directory.below (Path.ofText name)) = .ok node)
    (written : tree.writeAll directory files = .ok later) :
    later.find (directory.below (Path.ofText name)) = .ok node := by
  induction files generalizing tree with
  | nil =>
      obtain rfl := Except.ok.inj written
      exact found
  | cons file rest ih =>
      obtain ⟨next, first, others⟩ := writeAll_cons_eq_ok_iff.mp written
      rw [List.map_cons, List.mem_cons, not_or] at absent
      refine ih (fun other mem => parts other (List.mem_cons_of_mem _ mem)) absent.2 ?_ others
      refine find_write_of_ne found first fun place here there => ?_
      have last := getLast?_of_locate part here
      rw [getLast?_of_locate (parts file List.mem_cons_self) there] at last
      exact absent.1 (Option.some.inj last).symm

theorem find_writeAll {directory : Path} {files : List (String × String)}
    (parts : ∀ file ∈ files, Path.IsPart file.1) (distinct : (files.map Prod.fst).Nodup)
    (written : tree.writeAll directory files = .ok later) :
    ∀ file ∈ files, later.find (directory.below (Path.ofText file.1)) = .ok (.file file.2) := by
  induction files generalizing tree with
  | nil => exact List.forall_mem_nil _
  | cons file rest ih =>
      obtain ⟨next, first, others⟩ := writeAll_cons_eq_ok_iff.mp written
      obtain ⟨absent, distinct⟩ := List.nodup_cons.mp distinct
      have partsRest : ∀ other ∈ rest, Path.IsPart other.1 :=
        fun other mem => parts other (List.mem_cons_of_mem _ mem)
      rw [List.forall_mem_cons]
      exact ⟨find_writeAll_of_not_mem partsRest (parts file List.mem_cons_self) absent
        (find_write first) others, ih partsRest distinct others⟩

end Tree

end SchemaArtifacts.Files
