import SchemaArtifacts.Proofs.Files.Directory
import SchemaArtifacts.Proofs.Files.Extension

/-!
# Places of paths

Where a path leads is a matter of its names alone, as no name stands for a way elsewhere.  A file
that is written changes what stands at its own place, and directories are made only where nothing
stands.
-/

namespace SchemaArtifacts.Files

namespace Path

/-- Where a path leads, if it leads anywhere. -/
def place (path : Path) : Path := path.parts.foldl step path.origin

def IsIn (place directory : Path) : Prop := ∃ name, IsPart name ∧ place = directory.step name

theorem step_of_isPart (path : Path) {name : String} (part : IsPart name) :
    path.step name = { path with parts := path.parts ++ [name] } :=
  if_neg part.proper.2.2

theorem step_inj {first second : Path} {name other : String} (part : IsPart name)
    (part' : IsPart other) (same : first.step name = second.step other) : first = second := by
  rw [step_of_isPart _ part, step_of_isPart _ part'] at same
  obtain ⟨root, parts⟩ := Path.mk.inj same
  obtain ⟨parts, -⟩ := List.append_inj' parts rfl
  cases first
  cases second
  simp_all

section Below

variable {directory path : Path} {init : List String} {last : String}
  (cut : path.parts = init ++ [last])
include cut

theorem parts_parent : path.parent.parts = init := by
  rw [parent, cut, List.dropLast_concat]

theorem place_eq_step : path.place = path.parent.place.step last := by
  rw [place, place, parts_parent cut, cut, List.foldl_append]
  rfl

theorem parent_below : (directory.below path).parent = directory.below path.parent := by
  have same : path.parent.absolute = path.absolute := rfl
  cases root : path.absolute with
  | true => simp [below, root, same]
  | false =>
      have parts : directory.parts ++ (init ++ [last]) = (directory.parts ++ init) ++ [last] := by
        simp
      simp only [below, same, root, Bool.false_eq_true, if_false]
      rw [parts_parent cut, parent, cut, parts, List.dropLast_concat]

theorem exists_parts_below (directory : Path) :
    ∃ front, (directory.below path).parts = front ++ [last] := by
  cases root : path.absolute with
  | true => exact ⟨init, by simp [below, root, cut]⟩
  | false => exact ⟨directory.parts ++ init, by simp [below, root, cut]⟩

theorem isIn_place_below_iff (part : IsPart last) :
    (directory.below path).place.IsIn directory.place ↔
      (directory.below path.parent).place = directory.place := by
  obtain ⟨front, whole⟩ := exists_parts_below cut directory
  rw [place_eq_step whole, parent_below cut]
  constructor
  · rintro ⟨name, part', same⟩
    exact step_inj part part' same
  · intro back
    exact ⟨last, part, by rw [back]⟩

end Below

theorem isIn_place_below_ofText (directory : Path) {name : String} (part : IsPart name) :
    (directory.below (ofText name)).place.IsIn directory.place := by
  have cut : (ofText name).parts = [] ++ [name] := by rw [part.ofText, List.nil_append]
  refine (isIn_place_below_iff cut part).mpr ?_
  have nothing : (ofText name).parent = {} := by rw [part.ofText]; rfl
  rw [nothing, below_relative, List.append_nil]

end Path

namespace Tree

variable {tree later : Tree}

/-- What stood at a place still stands there, or a directory was made where nothing stood. -/
def Keeps (before after : Tree) (place : Path) : Prop :=
  after.node? place = before.node? place ∨
    (before.node? place = none ∧ after.node? place = some .directory)

instance (before after : Tree) (place : Path) : Decidable (Keeps before after place) :=
  inferInstanceAs (Decidable (_ ∨ _))

theorem Keeps.refl (tree : Tree) (place : Path) : tree.Keeps tree place := .inl rfl

theorem Keeps.trans {next : Tree} {place : Path} (first : tree.Keeps next place)
    (second : next.Keeps later place) : tree.Keeps later place := by
  rcases second with same | ⟨nothing, made⟩
  · rwa [Keeps, same]
  · rcases first with same' | ⟨-, made'⟩
    · exact .inr ⟨same'.symm.trans nothing, made⟩
    · rw [nothing] at made'
      cases made'

theorem follow_eq_foldl {parts : List String} {start place : Path}
    (way : tree.follow start parts = .ok place) : place = parts.foldl Path.step start := by
  induction parts generalizing start with
  | nil => exact (Except.ok.inj way).symm
  | cons part parts ih =>
      rw [follow] at way
      split at way
      · cases way
      · cases way
      · exact ih way

theorem place_of_locate {path place : Path} (located : tree.locate path = .ok place) :
    place = path.place := by
  rw [locate] at located
  split at located
  · cases located
  · split at located
    · rename_i way
      cases located
      exact follow_eq_foldl way
    · cases located
    · cases located

theorem node?_write {path : Path} {text : String} (written : tree.write path text = .ok later)
    (other : Path) :
    later.node? other = if other = path.place then some (.file text) else tree.node? other := by
  obtain ⟨place, located, notDirectory⟩ := (exists_write_iff text).mp ⟨later, written⟩
  rw [write_of_locate located notDirectory] at written
  obtain rfl := Except.ok.inj written
  obtain rfl := place_of_locate located
  exact node?_put tree (below_of_notDirectory notDirectory) other _

theorem keeps_put_directory {place : Path} (nothing : tree.node? place = none) (other : Path) :
    tree.Keeps (tree.put place .directory) other := by
  have below : place.parts.all (· == Path.up) = false :=
    below_of_notDirectory (by rw [nothing]; simp)
  rw [Keeps, node?_put tree below]
  split
  case isTrue same => exact .inr ⟨same ▸ nothing, rfl⟩
  case isFalse => exact .inl rfl

theorem keeps_fill {parts : List String} {start : Path} (made : tree.fill start parts = .ok later)
    (other : Path) : tree.Keeps later other := by
  induction parts generalizing tree start with
  | nil =>
      obtain rfl := Except.ok.inj made
      exact .refl tree other
  | cons part parts ih =>
      rw [fill] at made
      split at made
      · cases made
      · exact ih made
      · rename_i nothing
        exact (keeps_put_directory nothing other).trans (ih made)

theorem keeps_makeDirectories {path : Path} (made : tree.makeDirectories path = .ok later)
    (other : Path) : tree.Keeps later other := by
  rw [makeDirectories] at made
  split at made
  · cases made
  · split at made
    · rename_i filled
      cases made
      exact keeps_fill filled other
    · cases made
    · cases made

end Tree

end SchemaArtifacts.Files
