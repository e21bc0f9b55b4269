import SchemaArtifacts.Artifact.Kind
import SchemaArtifacts.Proofs.Artifact.CodeLines
import SchemaArtifacts.Proofs.Text.Joining

/-!
# Documents of blocks

Some blocks of a document, one after the other, stand in its generated text as they are rendered,
with a blank line before them, and with a blank line or the end of the text after them.
-/

namespace SchemaArtifacts.Markdown

open Text

theorem render_append {first second : List Block} (nonempty : first ≠ [])
    (nonempty' : second ≠ []) :
    render (first ++ second) = render first ++ "\n\n" ++ render second := by
  rw [render, List.map_append, String.intercalate_append_of_ne_nil (by simpa using nonempty)
    (by simpa using nonempty')]
  rfl

theorem dropFinalBreaks_append (s rest : String) :
    dropFinalBreaks (s ++ rest) =
      if dropFinalBreaks rest = "" then dropFinalBreaks s else s ++ dropFinalBreaks rest := by
  have empty : dropFinalBreaks rest = "" ↔
      (rest.toList.reverse.dropWhile (· == '\n')).isEmpty = true := by
    rw [← String.toList_inj, dropFinalBreaks, String.toList_ofList, List.isEmpty_iff]
    exact List.reverse_eq_nil_iff
  rw [← String.toList_inj]
  split
  case isTrue dropped =>
    rw [dropFinalBreaks, String.toList_ofList, String.toList_append, List.reverse_append,
      List.dropWhile_append, if_pos (empty.mp dropped), dropFinalBreaks, String.toList_ofList]
  case isFalse kept =>
    rw [dropFinalBreaks, String.toList_ofList, String.toList_append, List.reverse_append,
      List.dropWhile_append, if_neg (empty.not.mp kept), List.reverse_append, List.reverse_reverse,
      String.toList_append, dropFinalBreaks, String.toList_ofList]

theorem dropFinalBreaks_of_getLast? {s : String} {c : Char} (ends : s.toList.getLast? = some c)
    (visible : c ≠ '\n') : dropFinalBreaks s = s := by
  obtain ⟨cs, written⟩ := List.getLast?_eq_some_iff.mp ends
  rw [← String.toList_inj, dropFinalBreaks, String.toList_ofList, written, List.reverse_append,
    List.reverse_singleton, List.singleton_append,
    List.dropWhile_cons_of_neg (by simpa using visible)]
  simp

/-- What stands in a document after a text and a line ending: nothing more, or an empty line and
more. -/
def IsApart (ending rest : String) : Prop := rest = "" ∨ ∃ more, rest = ending ++ more

theorem exists_endedOnce {s rest : String} {c : Char} (ends : s.toList.getLast? = some c)
    (visible : c ≠ '\n') (apart : IsApart "\n" rest) :
    ∃ after, Artifact.endedOnce (s ++ "\n" ++ rest) = s ++ "\n" ++ after ∧ IsApart "\n" after := by
  have alone : dropFinalBreaks (s ++ "\n") = s := by
    rw [dropFinalBreaks_append, if_pos (by decide), dropFinalBreaks_of_getLast? ends visible]
  rcases apart with rfl | ⟨more, rfl⟩
  · exact ⟨"", by rw [String.append_empty, Artifact.endedOnce, alone], .inl rfl⟩
  · by_cases empty : dropFinalBreaks ("\n" ++ more) = ""
    · refine ⟨"", ?_, .inl rfl⟩
      rw [Artifact.endedOnce, dropFinalBreaks_append, if_pos empty, alone, String.append_empty]
    · refine ⟨dropFinalBreaks ("\n" ++ more) ++ "\n", ?_, .inr ?_⟩
      · rw [Artifact.endedOnce, dropFinalBreaks_append, if_neg empty, String.append_assoc]
      · rw [dropFinalBreaks_append] at empty ⊢
        split
        case isTrue nothing => exact absurd (by rw [if_pos nothing]; rfl) empty
        case isFalse => exact ⟨_, String.append_assoc⟩

theorem exists_render_append {first : List Block} (nonempty : first ≠ []) (after : List Block) :
    ∃ rest, render (first ++ after) ++ "\n" = render first ++ "\n" ++ rest ∧
      IsApart "\n" rest := by
  by_cases last : after = []
  · exact ⟨"", by rw [last, List.append_nil, String.append_empty], .inl rfl⟩
  · refine ⟨"\n" ++ render after ++ "\n", ?_, .inr ⟨render after ++ "\n", String.append_assoc⟩⟩
    rw [render_append nonempty last]
    simp [← String.toList_inj]

theorem exists_documentText (ending : String) {dialect : Sql.Dialect} {target : Target}
    {before middle after : List Block}
    (written : blocks dialect target = before ++ middle ++ after) (nonempty : before ≠ [])
    (nonempty' : middle ≠ []) {c : Char} (ends : (render middle).toList.getLast? = some c)
    (visible : c ≠ '\n') :
    ∃ rest, withLineEnding ending (Artifact.endedOnce (documentText dialect target)) =
        withLineEnding ending (render before) ++ ending ++ ending ++
          withLineEnding ending (render middle) ++ ending ++ rest ∧
      IsApart ending rest := by
  have ended : (render (before ++ middle)).toList.getLast? = some c := by
    rw [render_append nonempty nonempty']
    exact getLast?_append ends
  obtain ⟨rest, parts, apart⟩ := exists_render_append (List.append_ne_nil_of_left_ne_nil nonempty
    middle) after
  obtain ⟨rest, cut, apart⟩ := exists_endedOnce ended visible apart
  refine ⟨withLineEnding ending rest, ?_, ?_⟩
  · rw [documentText, written, parts, cut, render_append nonempty nonempty']
    simp only [withLineEnding_append, withLineEnding_blank, withLineEnding_break,
      ← String.append_assoc]
  · rcases apart with rfl | ⟨more, rfl⟩
    · exact .inl rfl
    · exact .inr ⟨_, by rw [withLineEnding_append, withLineEnding_break]⟩

theorem exists_sectionText (ending : String) {dialect : Sql.Dialect} {target : Target}
    {before after : List Block} {title : String} {block : Block}
    (written : blocks dialect target = before ++ [.heading 2 title, block] ++ after)
    (nonempty : before ≠ []) (plain : IsUnbroken title) (filled : block.lines ≠ [])
    (lines : ∀ line ∈ block.lines, IsUnbroken line ∧ line ≠ "") :
    ∃ start rest, withLineEnding ending (Artifact.endedOnce (documentText dialect target)) =
        start ++ ("## " ++ title) ++ ending ++ ending ++ ending.intercalate block.lines ++ ending ++
          rest ∧
      IsApart ending rest := by
  have middle : render [.heading 2 title, block] =
      "## " ++ title ++ "\n\n" ++ joinLines block.lines := rfl
  have last := List.getLast?_eq_some_getLast filled
  obtain ⟨unbroken, visible⟩ := lines _ (List.getLast_mem filled)
  have ends := List.getLast?_eq_some_getLast (String.toList_eq_nil_iff.not.mpr visible)
  obtain ⟨rest, text, apart⟩ := exists_documentText ending written nonempty (List.cons_ne_nil _ _)
    (middle ▸ getLast?_append (getLast?_intercalate last ends))
    (ne_of_mem_of_not_mem (List.mem_of_getLast? ends) unbroken)
  have heading : withLineEnding ending ("## " ++ title) = "## " ++ title :=
    withLineEnding_of_isUnbroken (.append (by decide) plain)
  let start := withLineEnding ending (render before) ++ ending ++ ending
  refine ⟨start, rest, ?_, apart⟩
  rw [text, middle, withLineEnding_append, withLineEnding_append, heading, withLineEnding_blank,
    withLineEnding_joinLines_of_isUnbroken fun line mem => (lines line mem).1]
  simp only [start, String.append_assoc]

theorem exists_referenceGenerator_ending {settings : Settings} {dialect : Sql.Dialect}
    (named : Sql.Dialect.ofJson settings.dialect = .ok dialect) {ending : String}
    (set : settings.lineEnding = .str ending) :
    ∃ generator, Artifact.Kind.documentation.generator settings {} = .ok generator ∧
      ∀ target, generator.artifact target =
        .ok (.made (withLineEnding ending (Artifact.endedOnce (documentText dialect target)))
          (Artifact.targetWarnings target) (generator.details target)) := by
  refine ⟨_, by simp only [Artifact.Kind.generator, Artifact.referenceGenerator, named]; rfl, ?_⟩
  exact fun target => Artifact.Generator.artifact_of_lineEnding set rfl rfl

end SchemaArtifacts.Markdown
