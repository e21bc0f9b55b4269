import SchemaArtifacts.Files.Path
import SchemaArtifacts.Proofs.Text.Lines

/-!
# Paths to JSON files

A text that ends in `.json` leads to a file that is named as one, unless there is nothing before
the point in the name.
-/

namespace SchemaArtifacts.Files.Path

open Text

theorem exists_splitOn_append {separator : Char} (cs : List Char) {ending : List Char}
    (unbroken : separator ∉ ending) :
    ∃ pieces last, (cs ++ ending).splitOn separator = pieces ++ [last ++ ending] := by
  by_cases broken : separator ∈ cs
  · obtain ⟨after, before, cut, absent⟩ :=
      List.eq_append_cons_of_mem (List.mem_reverse.mpr broken)
    have whole : cs ++ ending = before.reverse ++ separator :: (after.reverse ++ ending) := by
      rw [← List.reverse_reverse cs, cut]
      simp
    have last : separator ∉ after.reverse ++ ending := by
      simp [absent, unbroken]
    refine ⟨before.reverse.splitOn separator, after.reverse, ?_⟩
    rw [whole, List.splitOn_append_cons_self, List.splitOn_eq_singleton last]
  · refine ⟨[], cs, ?_⟩
    rw [List.splitOn_eq_singleton (by simp [broken, unbroken]), List.nil_append]

theorem exists_parts_of_suffix {ending : List Char} {file : String} (ends : ending <:+ file.toList)
    (unbroken : '/' ∉ ending) (long : 3 ≤ ending.length) :
    ∃ pieces stem, '/' ∉ stem ∧
      (ofText file).parts = pieces ++ [String.ofList (stem ++ ending)] := by
  obtain ⟨front, whole⟩ := ends
  obtain ⟨pieces, stem, cut⟩ := exists_splitOn_append front unbroken
  have other (s : String) (short : s.toList.length < 3) : String.ofList (stem ++ ending) ≠ s := by
    rintro rfl
    rw [String.toList_ofList, List.length_append] at short
    omega
  have kept : [String.ofList (stem ++ ending)].filter (fun part => part != "" && part != ".") =
      [String.ofList (stem ++ ending)] := by
    simp only [List.filter_cons, bne_iff_ne.mpr (other "" (by decide)),
      bne_iff_ne.mpr (other "." (by decide))]
    rfl
  refine ⟨(pieces.map String.ofList).filter fun part => part != "" && part != ".", stem, ?_, ?_⟩
  · intro mem
    have last : stem ++ ending ∈ (front ++ ending).splitOn '/' := by simp [cut]
    exact (mem_and_ne_of_mem_splitOn last (List.mem_append_left _ mem)).2 rfl
  · simp only [ofText, ← whole, cut, List.map_append, List.map_cons, List.map_nil,
      List.filter_append, kept]

end SchemaArtifacts.Files.Path
