import Mathlib.Data.List.Forall2
import SchemaArtifacts.Proofs.Escape.Line
import SchemaArtifacts.Proofs.Text.LetterCase
import SchemaArtifacts.Escape.Markdown

/-!
# Anchors of headings

An anchor keeps the letters, digits, underscores, hyphens and spaces of a heading in lower case, so
headings that differ in other characters, in case, or in spaces for hyphens have one anchor.  A
name has the anchor of the heading that it is put on one line for, as long as each run of blanks
with a line break in it, which becomes a space there, has one space itself.
-/

namespace SchemaArtifacts.Escape

open Text

def isKept (c : Char) : Bool := isWord c || c == '-' || c == ' '

def keptChars (cs : List Char) : List Char := (lowerChars (trimChars cs)).filter isKept

/-- Two headings keep the same characters, but for spaces where the other one has hyphens. -/
def ReadAlike (s rest : String) : Prop :=
  List.Forall₂ (fun c d => c = d ∨ c ∈ [' ', '-'] ∧ d ∈ [' ', '-']) (keptChars s.toList)
    (keptChars rest.toList)

def dashed (c : Char) : Char := if c = ' ' then '-' else c

theorem markdownAnchor_eq (s : String) :
    markdownAnchor s = String.ofList ((keptChars s.toList).map dashed) := rfl

theorem dashed_inj {c d : Char} :
    dashed c = dashed d ↔ c = d ∨ c ∈ [' ', '-'] ∧ d ∈ [' ', '-'] := by
  simp only [List.mem_cons, List.not_mem_nil, or_false, dashed]
  split <;> split <;> grind

theorem markdownAnchor_eq_iff {s rest : String} :
    markdownAnchor s = markdownAnchor rest ↔ ReadAlike s rest := by
  rw [markdownAnchor_eq, markdownAnchor_eq, String.ofList_inj, ReadAlike,
    ← List.forall₂_eq_eq_eq, List.forall₂_map_left_iff, List.forall₂_map_right_iff]
  simp only [dashed_inj]

theorem isUnbroken_markdownAnchor (s : String) : IsUnbroken (markdownAnchor s) := by
  rw [markdownAnchor_eq, IsUnbroken, String.toList_ofList, List.mem_map]
  rintro ⟨c, mem, same⟩
  have kept : isKept c = true := (List.mem_filter.mp mem).2
  rw [dashed] at same
  split at same
  · cases same
  · rw [same] at kept
    exact absurd kept (by decide)

theorem reachesCased_run {run : List Char} (nonempty : run ≠ [])
    (blank : ∀ c ∈ run, isBlank c = true) (rest : List Char) :
    reachesCased (run ++ rest) = false := by
  obtain ⟨c, others, rfl⟩ := List.exists_cons_of_ne_nil nonempty
  exact reachesCased_blank (blank c List.mem_cons_self) _

theorem collapseRun_ne_nil {run : List Char} (nonempty : run ≠ []) : collapseRun run ≠ [] := by
  rw [collapseRun]
  split
  · exact List.cons_ne_nil _ _
  · exact nonempty

theorem reachesCased_collapseBreaks (cs : List Char) :
    reachesCased (collapseBreaks cs) = reachesCased cs := by
  fun_induction collapseBreaks cs with
  | case1 => rfl
  | case2 c rest blank ih =>
      have run : ∀ d ∈ c :: rest.takeWhile isBlank, isBlank d = true :=
        List.forall_mem_cons.mpr ⟨blank, List.all_eq_true.mp List.all_takeWhile⟩
      rw [reachesCased_run (collapseRun_ne_nil (List.cons_ne_nil _ _))
        fun d => isBlank_of_mem_collapseRun run, reachesCased_blank blank]
  | case3 c rest visible ih => rw [reachesCased_cons, reachesCased_cons, ih]

/-- Each run of blanks with a line break has one space, too. -/
def HasSpacedBreaks (cs : List Char) : Prop :=
  ∀ run ∈ blankRuns cs, run.any isLineBreak = true → run.count ' ' = 1

instance (cs : List Char) : Decidable (HasSpacedBreaks cs) :=
  inferInstanceAs (Decidable (∀ run ∈ blankRuns cs, _))

theorem filter_isKept_of_isBlank {run : List Char} (blank : ∀ c ∈ run, isBlank c = true) :
    run.filter isKept = List.replicate (run.count ' ') ' ' := by
  rw [← List.filter_beq]
  refine List.filter_congr fun c mem => ?_
  have plain : isWord c = false := by
    by_contra word
    rw [Bool.not_eq_false] at word
    exact absurd (blank c mem) (by simp [isBlank_of_isWord word])
  have other : (c == '-') = false := beq_false_of_ne fun same =>
    absurd (blank c mem) (same ▸ by decide)
  rw [isKept, plain, other, Bool.false_or, Bool.false_or]

/-- An anchor has a hyphen for the space of a run with a line break, as for the space that the run
becomes on one line. -/
theorem filter_lowerAfter_collapseBreaks {cs : List Char} (spaced : HasSpacedBreaks cs)
    (before : List Char) :
    (lowerAfter before (collapseBreaks cs)).filter isKept =
      (lowerAfter before cs).filter isKept := by
  fun_induction collapseBreaks cs generalizing before with
  | case1 => rfl
  | case2 c rest blank ih =>
      rw [HasSpacedBreaks, blankRuns, if_pos blank, List.forall_mem_cons] at spaced
      obtain ⟨one, later⟩ := spaced
      have cut : c :: rest = c :: rest.takeWhile isBlank ++ rest.dropWhile isBlank := by
        rw [List.cons_append, List.takeWhile_append_dropWhile]
      conv_rhs => rw [cut]
      have nonempty : c :: rest.takeWhile isBlank ≠ [] := List.cons_ne_nil _ _
      have run : ∀ d ∈ c :: rest.takeWhile isBlank, isBlank d = true :=
        List.forall_mem_cons.mpr ⟨blank, List.all_eq_true.mp List.all_takeWhile⟩
      generalize c :: rest.takeWhile isBlank = blanks at one nonempty run ⊢
      have collapsed : ∀ d ∈ collapseRun blanks, isBlank d = true :=
        fun d => isBlank_of_mem_collapseRun run
      have count : (collapseRun blanks).count ' ' = blanks.count ' ' := by
        rw [collapseRun]
        split
        case isTrue breaks => rw [one breaks]; rfl
        case isFalse => rfl
      have reached : reachesCased ((collapseRun blanks).reverse ++ before) =
          reachesCased (blanks.reverse ++ before) := by
        rw [reachesCased_run (by simpa using collapseRun_ne_nil nonempty)
          (by simpa using collapsed), reachesCased_run (by simpa using nonempty)
          (by simpa using run)]
      rw [lowerAfter_append_of_isBlank collapsed, lowerAfter_append_of_isBlank run,
        List.filter_append, List.filter_append, filter_isKept_of_isBlank collapsed,
        filter_isKept_of_isBlank run, count, ih later, lowerAfter_congr reached]
  | case3 c rest visible ih =>
      rw [HasSpacedBreaks, blankRuns, if_neg visible] at spaced
      simp only [lowerAfter, reachesCased_collapseBreaks, List.filter_append, ih spaced]

theorem markdownAnchor_singleLine {s : String} (spaced : HasSpacedBreaks (trimChars s.toList)) :
    markdownAnchor (singleLine s) = markdownAnchor s := by
  have trimmed := trimChars_of_isTrimmed (isTrimmed_collapseBreaks (isTrimmed_trimChars s.toList))
  have kept : keptChars (singleLineChars s.toList) = keptChars s.toList := by
    rw [keptChars, singleLineChars_eq, trimmed]
    exact filter_lowerAfter_collapseBreaks spaced []
  rw [markdownAnchor_eq, markdownAnchor_eq, singleLine, String.toList_ofList, kept]

example : HasSpacedBreaks "Order \r\nItems!".toList ∧
    markdownAnchor (singleLine "Order \r\nItems!") = "order-items" := by
  decide +kernel

end SchemaArtifacts.Escape
