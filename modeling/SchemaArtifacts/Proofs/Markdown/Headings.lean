import Mathlib.Data.List.Basic
import SchemaArtifacts.Artifact.Tidy
import SchemaArtifacts.Markdown.Block
import SchemaArtifacts.Proofs.Text.Lines

/-!
# Lines that are headings

The lines of a document that start with a hash.  A document of blocks has those of its headings, as
long as no text in the blocks breaks a line, and those of the passages that stand in it.
-/

namespace SchemaArtifacts.Markdown

open Text

def startsHeading (line : String) : Bool := line.toList.head? == some '#'

def headingLines (s : String) : List String := (lines s).filter startsHeading

theorem headingLines_of_isUnbroken {s : String} (unbroken : IsUnbroken s) :
    headingLines s = if startsHeading s then [s] else [] := by
  rw [headingLines, lines_of_isUnbroken unbroken, List.filter_cons, List.filter_nil]

theorem headingLines_append_break (s rest : String) :
    headingLines (s ++ "\n" ++ rest) = headingLines s ++ headingLines rest := by
  rw [headingLines, lines_append_break, List.filter_append]
  rfl

theorem headingLines_append_end (s : String) : headingLines (s ++ "\n") = headingLines s := by
  rw [headingLines, lines_append_end, List.filter_append]
  exact List.append_nil _

theorem headingLines_append_blank (s rest : String) :
    headingLines (s ++ "\n\n" ++ rest) = headingLines s ++ headingLines rest := by
  rw [headingLines, lines_append_blank, List.filter_append]
  rfl

theorem headingLines_intercalate {separator : String}
    (separates : ∀ s rest,
      headingLines (s ++ separator ++ rest) = headingLines s ++ headingLines rest)
    (parts : List String) :
    headingLines (separator.intercalate parts) = parts.flatMap headingLines := by
  induction parts with
  | nil => rfl
  | cons part rest ih =>
      cases rest with
      | nil => simp [String.intercalate_singleton]
      | cons next others =>
          rw [String.intercalate_cons_cons, separates, ih]
          rfl

theorem headingLines_joinLines (parts : List String) :
    headingLines (joinLines parts) = parts.flatMap headingLines :=
  headingLines_intercalate headingLines_append_break parts

theorem headingLines_eq_filledLines (s : String) :
    headingLines s = ((filledLines s.toList).map String.ofList).filter startsHeading := by
  have filled (line : List Char) (starts : startsHeading (String.ofList line) = true) :
      (!line.isEmpty) = true := by
    cases line with
    | nil => simp [startsHeading] at starts
    | cons c rest => rfl
  rw [headingLines, lines, filledLines, List.filter_map, List.filter_map, List.filter_filter]
  refine congrArg _ (List.filter_congr fun line _ => ?_)
  cases starts : startsHeading (String.ofList line) with
  | false => simp [starts]
  | true => simp [starts, filled line starts]

theorem headingLines_endedOnce (s : String) :
    headingLines (Artifact.endedOnce s) = headingLines s := by
  have dropped : headingLines (dropFinalBreaks s) = headingLines s := by
    rw [headingLines_eq_filledLines, headingLines_eq_filledLines, dropFinalBreaks,
      String.toList_ofList, filledLines_dropEnd]
  rw [Artifact.endedOnce, headingLines_append_end, dropped]

def headingLine (level : Nat) (text : String) : String := Block.hashes level ++ " " ++ text

namespace Block

def headings : Block → List String
  | heading level text => [headingLine level text]
  | passage text => headingLines text
  | bullets _ => []
  | grid _ _ => []

def IsFlat : Block → Prop
  | heading level text => 0 < level ∧ IsUnbroken text
  | passage _ => True
  | bullets items => ∀ item ∈ items, IsUnbroken item
  | grid header rows => ∀ cells ∈ header :: rows, ∀ cell ∈ cells, IsUnbroken cell

theorem headingLines_headingLine {level : Nat} {text : String} (positive : 0 < level)
    (unbroken : IsUnbroken text) :
    headingLines (headingLine level text) = [headingLine level text] := by
  obtain ⟨level, rfl⟩ := Nat.exists_eq_add_of_lt positive
  have hashed : IsUnbroken (hashes (0 + level + 1)) := by
    intro mem
    rw [hashes, String.toList_ofList] at mem
    exact absurd (List.eq_of_mem_replicate mem) (by decide)
  rw [headingLine, headingLines_of_isUnbroken ((hashed.append (by decide)).append unbroken), if_pos]
  simp [startsHeading, hashes, List.replicate_succ]

theorem headingLines_append_of_start {start text : String}
    (starts : ∀ rest, startsHeading (start ++ rest) = false) (unbroken : IsUnbroken start)
    (others : IsUnbroken text) : headingLines (start ++ text) = [] := by
  rw [headingLines_of_isUnbroken (unbroken.append others), starts]
  rfl

theorem headingLines_bullet {item : String} (unbroken : IsUnbroken item) :
    headingLines ("- " ++ item) = [] :=
  headingLines_append_of_start (fun _ => by simp [startsHeading]) (by decide) unbroken

theorem headingLines_gridLine {cells : List String} (unbroken : ∀ cell ∈ cells, IsUnbroken cell) :
    headingLines (gridLine cells) = [] := by
  rw [gridLine, String.append_assoc]
  exact headingLines_append_of_start (fun _ => by simp [startsHeading]) (by decide)
    ((IsUnbroken.intercalate (by decide) unbroken).append (by decide))

theorem headingLines_ruleLine (header : List String) : headingLines (ruleLine header) = [] := by
  have rules : ∀ part ∈ header.map rule, IsUnbroken part := by
    rintro part mem hyphen
    obtain ⟨cell, -, rfl⟩ := List.mem_map.mp mem
    rw [rule, String.toList_ofList] at hyphen
    exact absurd (List.eq_of_mem_replicate hyphen) (by decide)
  rw [ruleLine, String.append_assoc]
  exact headingLines_append_of_start (fun _ => by simp [startsHeading]) (by decide)
    ((IsUnbroken.intercalate (by decide) rules).append (by decide))

theorem IsFlat.headingLines_render {block : Block} (flat : block.IsFlat) :
    headingLines block.render = block.headings := by
  rw [render, headingLines_joinLines]
  cases block with
  | heading level text => exact List.append_nil _ |>.trans (headingLines_headingLine flat.1 flat.2)
  | passage text => exact List.append_nil _
  | bullets items =>
      refine List.flatMap_eq_nil_iff.mpr fun line mem => ?_
      obtain ⟨item, held, rfl⟩ := List.mem_map.mp mem
      exact headingLines_bullet (flat item held)
  | grid header rows =>
      refine List.flatMap_eq_nil_iff.mpr fun line mem => ?_
      rcases List.mem_cons.mp mem with rfl | mem
      · exact headingLines_gridLine (flat header List.mem_cons_self)
      rcases List.mem_cons.mp mem with rfl | mem
      · exact headingLines_ruleLine header
      · obtain ⟨cells, held, rfl⟩ := List.mem_map.mp mem
        exact headingLines_gridLine (flat cells (List.mem_cons_of_mem _ held))

end Block

theorem headingLines_render {blocks : List Block} (flat : ∀ block ∈ blocks, block.IsFlat) :
    headingLines (render blocks) = blocks.flatMap Block.headings := by
  rw [render, headingLines_intercalate headingLines_append_blank, List.flatMap_map]
  exact List.flatMap_congr fun block mem => (flat block mem).headingLines_render

end SchemaArtifacts.Markdown
