import SchemaArtifacts.Files.Tree

/-!
# Reading a written file

What is put at a place is found there and everything else stays as it is.  No way to a place leads
through a file, so the way to a written file is the way that it was written by.
-/

namespace SchemaArtifacts.Files.Tree

variable {tree : Tree}

theorem lookup_replace (nodes : List (Path × Node)) (place other : Path) (node : Node) :
    (nodes.map fun entry => if entry.1 == place then (place, node) else entry).lookup other =
      if other = place then (nodes.lookup place).map fun _ => node else nodes.lookup other := by
  induction nodes with
  | nil => simp
  | cons entry nodes ih =>
      obtain ⟨found, held⟩ := entry
      by_cases here : found = place
      · subst here
        by_cases same : other = found
        · simp [same]
        · have apart : (other == found) = false := by simpa using same
          simpa [List.lookup_cons, same, apart] using ih
      · have apart : (place == found) = false := beq_false_of_ne (Ne.symm here)
        by_cases same : other = found
        · subst same
          simp [here]
        · have apart' : (other == found) = false := by simpa using same
          simpa [List.lookup_cons, here, apart, apart'] using ih

theorem any_iff_isSome_lookup (nodes : List (Path × Node)) (place : Path) :
    nodes.any (·.1 == place) = true ↔ (nodes.lookup place).isSome = true := by
  rw [List.lookup_isSome_iff, List.any_eq_true]
  simp only [beq_iff_eq, eq_comm (a := place)]

theorem lookup_put (tree : Tree) (place other : Path) (node : Node) :
    (tree.put place node).nodes.lookup other =
      if other = place then some node else tree.nodes.lookup other := by
  unfold put
  split
  · rename_i present
    obtain ⟨held, found⟩ :=
      Option.isSome_iff_exists.mp ((any_iff_isSome_lookup tree.nodes place).mp present)
    rw [lookup_replace, found]
    rfl
  · rename_i absent
    have missing : tree.nodes.lookup place = none := by
      rw [any_iff_isSome_lookup, Option.not_isSome_iff_eq_none] at absent
      exact absent
    rw [List.lookup_append]
    by_cases same : other = place
    · simp [same, missing]
    · have apart : (other == place) = false := beq_false_of_ne same
      simp [List.lookup_cons, same, apart]

theorem node?_put (tree : Tree) {place : Path} (below : place.parts.all (· == Path.up) = false)
    (other : Path) (node : Node) :
    (tree.put place node).node? other = if other = place then some node else tree.node? other := by
  unfold node?
  rw [lookup_put]
  by_cases same : other = place
  · simp [same, below]
  · simp [same]

theorem below_of_notDirectory {place : Path} (notDirectory : tree.node? place ≠ some .directory) :
    place.parts.all (· == Path.up) = false := by
  unfold node? at notDirectory
  split at notDirectory
  · exact absurd rfl notDirectory
  · simp_all

theorem follow_put {place : Path} (notDirectory : tree.node? place ≠ some .directory) (node : Node)
    (parts : List String) {start target : Path} (way : tree.follow start parts = .ok target) :
    (tree.put place node).follow start parts = .ok target := by
  induction parts generalizing start with
  | nil => exact way
  | cons part parts ih =>
      rw [follow] at way
      cases here : tree.node? start with
      | none => simp [here] at way
      | some found =>
          cases found with
          | file text => simp [here] at way
          | directory =>
              have apart : start ≠ place := by
                rintro rfl
                exact notDirectory here
              have kept : (tree.put place node).node? start = some .directory := by
                rw [node?_put tree (below_of_notDirectory notDirectory), if_neg apart, here]
              rw [follow, kept]
              rw [here] at way
              exact ih way

/-- A path leads to a place, and there is no directory at that place. -/
def IsWritable (tree : Tree) (path : Path) : Prop :=
  ∃ place, tree.locate path = .ok place ∧ tree.node? place ≠ some .directory

theorem locate_put {place : Path} (notDirectory : tree.node? place ≠ some .directory) (node : Node)
    {path target : Path} (found : tree.locate path = .ok target) :
    (tree.put place node).locate path = .ok target := by
  unfold locate at found ⊢
  split at found
  · cases found
  · split at found
    · rename_i usable _ _ way
      cases found
      rw [follow_put notDirectory node path.parts way]
    · cases found
    · cases found

theorem write_of_locate {path place : Path} (found : tree.locate path = .ok place)
    (notDirectory : tree.node? place ≠ some .directory) (text : String) :
    tree.write path text = .ok (tree.put place (.file text)) := by
  simp only [write, found, bind, Except.bind]
  rfl

theorem exists_write_iff {path : Path} (text : String) :
    (∃ written, tree.write path text = .ok written) ↔ tree.IsWritable path := by
  constructor
  · rintro ⟨written, done⟩
    cases found : tree.locate path with
    | error fault => simp [write, found, bind, Except.bind] at done
    | ok place =>
        refine ⟨place, found, ?_⟩
        intro directory
        simp [write, found, bind, Except.bind, directory] at done
  · rintro ⟨place, found, notDirectory⟩
    exact ⟨_, write_of_locate found notDirectory text⟩

theorem holds_of_find {path : Path} {node : Node} (found : tree.find path = .ok node) :
    tree.holds path = .ok true := by
  rw [holds, found]

theorem read_of_find {path : Path} {text : String} (found : tree.find path = .ok (.file text)) :
    tree.read path = .ok (Text.withUniversalBreaks text) := by
  rw [read, found]
  rfl

theorem IsWritable.find_write {path : Path} (writable : tree.IsWritable path) (text : String) :
    ∃ written, tree.write path text = .ok written ∧ written.find path = .ok (.file text) := by
  obtain ⟨place, found, notDirectory⟩ := writable
  refine ⟨_, write_of_locate found notDirectory text, ?_⟩
  have there : (tree.put place (.file text)).node? place = some (.file text) := by
    rw [node?_put tree (below_of_notDirectory notDirectory), if_pos rfl]
  simp only [find, locate_put notDirectory (.file text) found, bind, Except.bind, there]
  rfl

end SchemaArtifacts.Files.Tree
