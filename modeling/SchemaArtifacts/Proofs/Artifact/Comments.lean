import SchemaArtifacts.Proofs.Artifact.Identifiers
import SchemaArtifacts.Proofs.Artifact.TidyText
import SchemaArtifacts.Proofs.Collection.ReadBack
import SchemaArtifacts.Proofs.Interface.ReadBack

/-!
# Comments in scripts

Modules of collections and interfaces and the scripts of pages show texts of their targets in line
comments.  No line break is left in such a text, but a separator can be: then a script takes what
stands after the separator for code.
-/

namespace SchemaArtifacts.Artifact

open Escape Naming Text

def shownLines (s : String) : List String := (filledLinesOf s).map trimEnd

theorem shownLines_append_break (s rest : String) :
    shownLines (s ++ "\n" ++ rest) = shownLines s ++ shownLines rest := by
  rw [shownLines, filledLinesOf, lines_append_break, List.filter_append, List.map_append]
  rfl

theorem shownLines_endedLines (written : List String) :
    shownLines (Collection.endedLines written) = written.flatMap shownLines := by
  induction written with
  | nil => decide
  | cons line rest ih =>
      have cut : Collection.endedLines (line :: rest) =
          line ++ "\n" ++ Collection.endedLines rest := by
        simp [Collection.endedLines]
      rw [cut, shownLines_append_break, ih, List.flatMap_cons]

theorem filledLinesOf_eq (s : String) :
    filledLinesOf s =
      ((filledLines s.toList).map String.ofList).filter fun line => !isBlankText line := by
  rw [filledLinesOf, lines, filledLines, List.filter_map, List.filter_map, List.filter_filter]
  congr 1
  refine List.filter_congr fun line _ => ?_
  cases line <;> simp [isBlankText]

theorem shownLines_dropFinalBreaks (s : String) :
    shownLines (dropFinalBreaks s) = shownLines s := by
  rw [shownLines, filledLinesOf_eq, dropFinalBreaks, String.toList_ofList, filledLines_dropEnd,
    ← filledLinesOf_eq, ← shownLines]

theorem shownLines_intercalate (parts : List String) :
    shownLines ("\n\n".intercalate parts) = parts.flatMap shownLines := by
  induction parts with
  | nil => decide
  | cons part rest ih =>
      cases rest with
      | nil => simp [String.intercalate_singleton]
      | cons next others =>
          rw [String.intercalate_cons_cons, shownLines, filledLinesOf, lines_append_blank,
            List.filter_append, List.map_append, List.flatMap_cons, ← ih]
          rfl

theorem shownLines_joined (parts : List String) :
    shownLines (joined parts) = parts.flatMap shownLines := by
  rw [joined]
  split
  case isTrue empty =>
    rw [List.isEmpty_iff.mp empty]
    decide
  case isFalse =>
    have ended := shownLines_append_break ("\n\n".intercalate (parts.map dropFinalBreaks)) ""
    rw [String.append_empty] at ended
    rw [ended, shownLines_intercalate, List.flatMap_map]
    simp only [shownLines_dropFinalBreaks]
    exact List.append_nil _

theorem shownLines_of_isUnbroken {s : String} (unbroken : IsUnbroken s) :
    shownLines s = if isBlankText s then [] else [trimEnd s] := by
  rw [shownLines, filledLinesOf, lines_of_isUnbroken unbroken, List.filter_singleton]
  cases isBlankText s <;> rfl

theorem hasStart_of_mem_shownLines {s line start : String} (unbroken : IsUnbroken s)
    (mem : line ∈ shownLines s) (starts : hasStart line start = true) :
    hasStart s start = true := by
  have shown : line.toList <+: s.toList := by
    rw [shownLines_of_isUnbroken unbroken] at mem
    split at mem
    · cases mem
    · rw [List.mem_singleton.mp mem, toList_trimEnd]
      exact List.rdropWhile_prefix _ _
  exact List.isPrefixOf_iff_prefix.mpr ((List.isPrefixOf_iff_prefix.mp starts).trans shown)

def opensComment (line : String) : Bool := hasStart line "//"

def commentLines (written : List String) : List String :=
  (written.flatMap shownLines).filter opensComment

def IsQuiet (line : String) : Prop := ∀ shown ∈ shownLines line, opensComment shown = false

theorem commentLines_append (written others : List String) :
    commentLines (written ++ others) = commentLines written ++ commentLines others := by
  simp [commentLines]

theorem commentLines_flatMap {α : Type} (written : α → List String) (items : List α) :
    commentLines (items.flatMap written) =
      items.flatMap fun item => commentLines (written item) := by
  induction items with
  | nil => rfl
  | cons item rest ih => rw [List.flatMap_cons, commentLines_append, ih, List.flatMap_cons]

theorem commentLines_of_isQuiet {written : List String} (quiet : ∀ line ∈ written, IsQuiet line) :
    commentLines written = [] := by
  rw [commentLines, List.filter_eq_nil_iff]
  intro shown mem
  obtain ⟨line, held, inside⟩ := List.mem_flatMap.mp mem
  simp [quiet line held shown inside]

theorem commentLines_cons {line : String} (quiet : IsQuiet line) (written : List String) :
    commentLines (line :: written) = commentLines written := by
  have first : commentLines [line] = [] :=
    commentLines_of_isQuiet fun _ mem => List.mem_singleton.mp mem ▸ quiet
  rw [← List.singleton_append, commentLines_append, first, List.nil_append]

theorem isQuiet_of_isUnbroken {line : String} (unbroken : IsUnbroken line)
    (code : opensComment line = false) : IsQuiet line := by
  intro shown mem
  by_contra opens
  have start : hasStart shown "//" = true := by simpa [opensComment] using opens
  rw [opensComment, hasStart_of_mem_shownLines unbroken mem start] at code
  cases code

theorem IsQuiet.append_break {s rest : String} (first : IsQuiet s) (later : IsQuiet rest) :
    IsQuiet (s ++ "\n" ++ rest) := by
  intro shown mem
  rw [shownLines_append_break, List.mem_append] at mem
  exact mem.elim (first shown) (later shown)

/-- A text without line breaks whose first character starts neither a comment nor dashes. -/
structure StartsCode (s : String) : Prop where
  unbroken : IsUnbroken s
  starts : ∃ c ∈ s.toList.head?, c ∉ ['/', '-']

instance (s : String) : Decidable (StartsCode s) :=
  have : Decidable (∃ c ∈ s.toList.head?, c ∉ ['/', '-']) :=
    Option.decidableExistsMem s.toList.head?
  decidable_of_iff (IsUnbroken s ∧ _) ⟨fun code => ⟨code.1, code.2⟩, fun code =>
    ⟨code.unbroken, code.starts⟩⟩

theorem StartsCode.append {s rest : String} (code : StartsCode s) (unbroken : IsUnbroken rest) :
    StartsCode (s ++ rest) := by
  obtain ⟨c, first, starts⟩ := code.starts
  refine ⟨code.unbroken.append unbroken, c, ?_, starts⟩
  rw [String.toList_append, List.head?_append, Option.mem_def.mp first]
  rfl

theorem StartsCode.hasStart_eq_false {s line start : String} (code : StartsCode s)
    (mem : line ∈ shownLines s) (opens : ∃ c ∈ start.toList.head?, c ∈ ['/', '-']) :
    hasStart line start = false := by
  by_contra found
  obtain ⟨rest, whole⟩ := List.isPrefixOf_iff_prefix.mp
    (hasStart_of_mem_shownLines code.unbroken mem (by simpa using found))
  obtain ⟨c, first, starts⟩ := code.starts
  obtain ⟨d, opening, dashes⟩ := opens
  rw [← whole, List.head?_append, Option.mem_def.mp opening] at first
  obtain rfl : d = c := Option.some.inj first
  exact starts dashes

theorem StartsCode.isQuiet {s : String} (code : StartsCode s) : IsQuiet s :=
  fun _ mem => code.hasStart_eq_false mem ⟨'/', rfl, by decide⟩

theorem StartsCode.not_dashes_mem {s : String} (code : StartsCode s) : "---" ∉ shownLines s :=
  fun mem => absurd (@StartsCode.hasStart_eq_false _ _ "---" code mem ⟨'-', rfl, by decide⟩)
    (by decide)

theorem isQuiet_keyed {start rest : String} (code : StartsCode start) (later : StartsCode rest)
    (name : String) : IsQuiet (start ++ objectKey name ++ rest) := by
  by_cases fed : IsFedName name
  · rw [objectKey_of_fed fed]
    obtain ⟨identifier, plain, rfl⟩ := fed
    rw [← String.append_assoc]
    exact (code.append plain.isOneLine.isUnbroken).isQuiet.append_break later.isQuiet
  · have key := (isOneLine_objectKey fed).isUnbroken
    exact ((code.append key).append later.unbroken).isQuiet

/-! ## Comments with texts -/

/-- A line comment with a text of a target in it; one that is always the same has no text. -/
structure Comment where
  start : String
  text : String := ""
  ending : String := ""
  deriving DecidableEq, Repr

namespace Comment

/-- The comment as it is written: its text stands on one line. -/
def line (comment : Comment) : String := comment.start ++ singleLine comment.text ++ comment.ending

/-- The comment as it is handed out, without blanks at its end. -/
def shown (comment : Comment) : String := trimEnd comment.line

/-- The comment starts a line comment, and only its text could end its line. -/
structure IsFramed (comment : Comment) : Prop where
  opens : opensComment comment.start = true
  closed : ∀ c ∈ comment.start.toList ++ comment.ending.toList, endsScriptLine c = false

instance (comment : Comment) : Decidable comment.IsFramed :=
  have : Decidable (∀ c ∈ comment.start.toList ++ comment.ending.toList,
      endsScriptLine c = false) :=
    List.decidableBAll _ _
  decidable_of_iff (opensComment comment.start = true ∧ _)
    ⟨fun framed => ⟨framed.1, framed.2⟩, fun framed => ⟨framed.opens, framed.closed⟩⟩

variable {comment : Comment}

theorem IsFramed.withText (framed : comment.IsFramed) (text : String) :
    { comment with text }.IsFramed :=
  ⟨framed.opens, framed.closed⟩

theorem toList_line (comment : Comment) :
    comment.line.toList =
      comment.start.toList ++ (singleLine comment.text).toList ++ comment.ending.toList := by
  simp [line, String.toList_append]

theorem IsFramed.mem_singleLine (framed : comment.IsFramed) {c : Char}
    (mem : c ∈ comment.line.toList) (ends : endsScriptLine c = true) :
    c ∈ (singleLine comment.text).toList := by
  rw [toList_line, List.mem_append, List.mem_append] at mem
  have apart : ¬ (c ∈ comment.start.toList ++ comment.ending.toList) := by
    intro frame
    rw [framed.closed c frame] at ends
    cases ends
  rw [List.mem_append, not_or] at apart
  rcases mem with (start | inside) | ending
  · exact absurd start apart.1
  · exact inside
  · exact absurd ending apart.2

theorem IsFramed.isUnbroken (framed : comment.IsFramed) : IsUnbroken comment.line :=
  fun mem => isUnbroken_singleLine _ (framed.mem_singleLine mem rfl)

theorem IsFramed.toList_eq_cons (framed : comment.IsFramed) :
    ∃ rest, comment.line.toList = '/' :: '/' :: rest := by
  obtain ⟨more, start⟩ := List.isPrefixOf_iff_prefix.mp framed.opens
  exact ⟨more ++ (singleLine comment.text).toList ++ comment.ending.toList, by
    simp [toList_line, ← start]⟩

theorem IsFramed.shown (framed : comment.IsFramed) :
    shownLines comment.line = [comment.shown] ∧ opensComment comment.shown = true := by
  obtain ⟨rest, chars⟩ := framed.toList_eq_cons
  have filled : isBlankText comment.line = false := by
    rw [isBlankText, chars, List.all_cons]
    rfl
  constructor
  · rw [shownLines_of_isUnbroken framed.isUnbroken, filled, ← Comment.shown]
    rfl
  · rw [opensComment, hasStart, Comment.shown, toList_trimEnd, chars,
      trimEndChars_cons (by decide), trimEndChars_cons (by decide)]
    rfl

theorem IsFramed.toList_shown (framed : comment.IsFramed) :
    comment.shown.toList = trimChars comment.line.toList := by
  obtain ⟨rest, chars⟩ := framed.toList_eq_cons
  rw [Comment.shown, toList_trimEnd, chars, trimChars, trimStartChars,
    List.dropWhile_cons_of_neg (by decide)]

theorem IsFramed.mem_shown_iff (framed : comment.IsFramed) {c : Char}
    (ends : endsScriptLine c = true) :
    c ∈ comment.shown.toList ↔ c ∈ (singleLine comment.text).toList := by
  have blank := isBlank_of_endsScriptLine ends
  rw [framed.toList_shown]
  refine ⟨fun mem => framed.mem_singleLine (mem_trimChars mem) ends, fun mem => ?_⟩
  have trimmed : trimChars (singleLine comment.text).toList = (singleLine comment.text).toList := by
    rw [singleLine, String.toList_ofList]
    exact trimChars_of_isTrimmed (isTrimmed_trimChars _)
  rw [← trimmed] at mem
  obtain ⟨before, after, whole, visible, visible'⟩ := (mem_trimChars_iff blank).mp mem
  refine (mem_trimChars_iff blank).mpr ⟨comment.start.toList ++ before,
    after ++ comment.ending.toList, by simp [toList_line, whole], ?_, ?_⟩
  · rw [List.any_append, visible, Bool.or_true]
  · rw [List.any_append, visible', Bool.true_or]

theorem IsFramed.isOneLine_shown (framed : comment.IsFramed) : IsOneLine comment.shown := by
  intro c mem
  by_contra breaks
  have ends : endsScriptLine c = true := by
    rw [endsScriptLine, Bool.or_eq_true]
    exact .inl (by simpa using breaks)
  exact breaks (isOneLine_singleLine _ c ((framed.mem_shown_iff ends).mp mem))

theorem IsFramed.closed_shown_iff (framed : comment.IsFramed) :
    (∀ c ∈ comment.shown.toList, endsScriptLine c = false) ↔ LosesSeparators comment.text := by
  rw [← endsScriptLine_singleLine_iff]
  refine forall_congr' fun c => ?_
  cases ends : endsScriptLine c with
  | false => simp
  | true => rw [framed.mem_shown_iff ends]

theorem flatMap_shownLines {comments : List Comment}
    (framed : ∀ comment ∈ comments, comment.IsFramed) :
    (comments.map line).flatMap shownLines = comments.map shown := by
  rw [List.flatMap_map, List.map_eq_flatMap]
  exact List.flatMap_congr fun comment mem => (framed comment mem).shown.1

theorem commentLines_map {comments : List Comment}
    (framed : ∀ comment ∈ comments, comment.IsFramed) :
    commentLines (comments.map line) = comments.map shown := by
  rw [commentLines, flatMap_shownLines framed, List.filter_eq_self]
  intro line mem
  obtain ⟨comment, held, rfl⟩ := List.mem_map.mp mem
  exact (framed comment held).shown.2

end Comment

def textComments (text : String) : List Comment :=
  if text = "" then [] else [{ start := "// ", text }]

theorem isFramed_textComments (text : String) :
    ∀ comment ∈ textComments text, comment.IsFramed := by
  intro comment mem
  rw [textComments, List.mem_ite_nil_left, List.mem_singleton] at mem
  rw [mem.2]
  have frame : Comment.IsFramed { start := "// " } := by decide
  exact frame.withText text

theorem map_line_textComments (text : String) :
    (textComments text).map Comment.line =
      if text = "" then [] else ["// " ++ singleLine text] := by
  rw [textComments]
  split
  · rfl
  · simp [Comment.line]

/-! ## Tables with their identifiers -/

def named (style : CaseStyle) (tables : List Table) : List (Table × String) :=
  tables.zip (Register.forScripts.issueAll
    (tables.map fun table => { name := table.name, style }))

section Named

variable {style : CaseStyle} (noKebab : style ≠ .kebab) {tables : List Table}

include noKebab

theorem isPlain_of_mem_named : ∀ entry ∈ named style tables, IsPlain entry.2.toList := by
  intro entry mem
  exact ((List.forall₂_iff_zip.mp (isShownBy_scriptNames noKebab tables)).2 mem).plain

theorem map_fst_named : (named style tables).map (·.1) = tables := by
  have lengths := (List.forall₂_iff_zip.mp (isShownBy_scriptNames noKebab tables)).1
  exact List.map_fst_zip lengths.le

theorem commentLines_named {written : Table × String → List String} {comments : Table → List String}
    (each : ∀ entry : Table × String, IsPlain entry.2.toList →
      commentLines (written entry) = comments entry.1) :
    commentLines ((named style tables).flatMap written) = tables.flatMap comments := by
  rw [commentLines_flatMap]
  conv_rhs => rw [← @map_fst_named style noKebab tables, List.flatMap_map]
  exact List.flatMap_congr fun entry mem => each entry (isPlain_of_mem_named noKebab entry mem)

end Named

def collectionComments (comments : Bool) (target : Target) : List Comment :=
  [{ start := "// Content collection configuration" },
   { start := "// File: src/content/config.ts" }] ++
    textComments (Collection.title target) ++
    target.tables.flatMap fun table => textComments (if comments then table.description else "")

theorem isQuiet_member (field : Field) : IsQuiet (Collection.memberLine field) := by
  have colon : StartsCode ": " := by decide
  have rest := (colon.append (Collection.isUnbroken_validation field)).append
    (show IsUnbroken "," by decide)
  have keyed := @isQuiet_keyed "    " _ (by decide) rest field.name
  simpa only [Collection.memberLine, String.append_assoc] using keyed

theorem isQuiet_entry (table : Table) {name : String} (plain : IsPlain name.toList) :
    IsQuiet (Collection.entryLine table name) := by
  have colon : StartsCode ": " := by decide
  have rest := (colon.append plain.isUnbroken).append (show IsUnbroken "," by decide)
  have keyed := @isQuiet_keyed "  " _ (by decide) rest table.name
  simpa only [Collection.entryLine, String.append_assoc] using keyed

theorem commentLines_collection (comments : Bool) (table : Table) {identifier : String}
    (plain : IsPlain identifier.toList) :
    commentLines (Collection.definition comments table identifier).lines =
      (textComments (if comments then table.description else "")).map Comment.shown := by
  have members : commentLines ((Collection.definition comments table identifier).members.map
      fun member => "    " ++ member.key ++ ": " ++ member.expression ++ ",") = [] := by
    refine commentLines_of_isQuiet fun line mem => ?_
    obtain ⟨_, found, rfl⟩ := List.mem_map.mp mem
    obtain ⟨field, -, rfl⟩ := List.mem_map.mp found
    exact isQuiet_member field
  have header : commentLines
      ["const " ++ (Collection.definition comments table identifier).variable_ ++
        " = defineCollection(\x7b", "  type: 'content',", "  schema: z.object(\x7b"] = [] := by
    have const : StartsCode "const " := by decide
    have variable_ : IsUnbroken (Collection.definition comments table identifier).variable_ :=
      (Collection.isPlain_variable plain).isUnbroken
    have opening := (const.append variable_).append
      (show IsUnbroken " = defineCollection(\x7b" by decide)
    rw [commentLines_cons opening.isQuiet]
    decide +kernel
  have blank : commentLines [""] = [] := by decide +kernel
  have ending : commentLines ["  \x7d),", "\x7d);"] = [] := by decide +kernel
  rw [← Comment.commentLines_map (isFramed_textComments _), map_line_textComments,
    Collection.Definition.lines, commentLines_append, commentLines_append, commentLines_append,
    commentLines_append, members, header, ending, blank, List.append_nil, List.append_nil,
    List.append_nil, List.nil_append]
  rfl

theorem isFramed_collectionComments (comments : Bool) (target : Target) :
    ∀ comment ∈ collectionComments comments target, comment.IsFramed := by
  rw [collectionComments, List.forall_mem_append, List.forall_mem_append]
  refine ⟨⟨by decide, isFramed_textComments _⟩, fun comment mem => ?_⟩
  obtain ⟨table, -, held⟩ := List.mem_flatMap.mp mem
  exact isFramed_textComments _ comment held

theorem commentLines_collections (comments : Bool) (target : Target) :
    commentLines (Collection.moduleLines (Collection.title target)
        (Collection.definitions comments target.tables Register.forScripts)) =
      (collectionComments comments target).map Comment.shown := by
  have definitions : Collection.definitions comments target.tables Register.forScripts =
      (named .camel target.tables).map fun entry =>
        Collection.definition comments entry.1 entry.2 :=
    Collection.definitions_eq comments target.tables Register.forScripts
  have noKebab : CaseStyle.camel ≠ .kebab := by decide
  have sections := @commentLines_named .camel noKebab target.tables
    (fun entry => (Collection.definition comments entry.1 entry.2).lines)
    (fun table => (textComments (if comments then table.description else "")).map Comment.shown)
    fun entry plain => commentLines_collection comments entry.1 plain
  have entries : commentLines (((named .camel target.tables).map fun entry =>
      Collection.definition comments entry.1 entry.2).map fun entry =>
        "  " ++ entry.key ++ ": " ++ entry.variable_ ++ ",") = [] := by
    refine commentLines_of_isQuiet fun line mem => ?_
    obtain ⟨_, found, rfl⟩ := List.mem_map.mp mem
    obtain ⟨entry, held, rfl⟩ := List.mem_map.mp found
    have plain := isPlain_of_mem_named noKebab entry held
    exact isQuiet_entry entry.1 (Collection.isPlain_variable plain)
  have imports : commentLines ["", "import \x7b defineCollection, z \x7d from 'astro:content';"] =
      [] := by
    decide +kernel
  have exports : commentLines ["", "export const collections = \x7b"] = [] := by decide +kernel
  have ending : commentLines ["\x7d;"] = [] := by decide +kernel
  have heading : commentLines ["// Content collection configuration",
      "// File: src/content/config.ts"] =
        ([{ start := "// Content collection configuration" },
          { start := "// File: src/content/config.ts" }] : List Comment).map Comment.shown := by
    decide +kernel
  have title := Comment.commentLines_map (isFramed_textComments (Collection.title target))
  rw [map_line_textComments] at title
  rw [Collection.moduleLines, definitions, commentLines_append, commentLines_append,
    commentLines_append, commentLines_append, commentLines_append, commentLines_append, title,
    imports, exports, ending, entries, List.flatMap_map, sections, collectionComments,
    List.map_append, List.map_append, List.map_flatMap, heading]
  simp only [List.append_nil]

def interfaceComments (target : Target) : List Comment :=
  if target.name = "" then [{ start := "// Generated TypeScript types" }]
  else [{ start := "// Generated TypeScript types for ", text := target.name }]

theorem isFramed_interfaceComments (target : Target) :
    ∀ comment ∈ interfaceComments target, comment.IsFramed := by
  have frame : Comment.IsFramed { start := "// Generated TypeScript types for " } := by decide
  rw [interfaceComments]
  split
  · decide
  · exact List.forall_mem_singleton.mpr (frame.withText _)

theorem isQuiet_commentLine (text : String) : IsQuiet (Interface.commentLine text) := by
  refine isQuiet_of_isUnbroken (Interface.isUnbroken_commentLine text) ?_
  rw [opensComment, hasStart, Interface.toList_commentLine]
  rfl

theorem isQuiet_memberLines (comments : Bool) (field : Field) :
    ∀ line ∈ (Interface.member comments field).lines, IsQuiet line := by
  have indented : StartsCode "  " := by decide
  intro line mem
  simp only [Interface.Member.lines, List.mem_append, List.mem_ite_nil_left,
    List.mem_singleton] at mem
  rcases mem with ⟨-, rfl⟩ | rfl
  · exact (indented.append (Interface.isUnbroken_commentLine _)).isQuiet
  · have mark : StartsCode ((if (Interface.member comments field).optional_ then "?" else "") ++
        ": ") := by
      split <;> decide
    have rest := (mark.append (Interface.isUnbroken_memberType field)).append
      (show IsUnbroken ";" by decide)
    simpa only [Interface.member, String.append_assoc] using isQuiet_keyed indented rest field.name

theorem commentLines_interface (comments : Bool) (table : Table) {identifier : String}
    (plain : IsPlain identifier.toList) :
    commentLines (Interface.definition comments table identifier).lines = [] := by
  refine commentLines_of_isQuiet fun line mem => ?_
  simp only [Interface.Definition.lines, List.mem_append, List.mem_ite_nil_left,
    List.mem_singleton] at mem
  rcases mem with (((rfl | ⟨-, rfl⟩) | rfl) | inside) | rfl
  · unfold IsQuiet
    decide +kernel
  · exact isQuiet_commentLine _
  · have header : StartsCode "export interface " := by decide
    exact ((header.append plain.isUnbroken).append (by decide)).isQuiet
  · obtain ⟨_, found, held⟩ := List.mem_flatMap.mp inside
    obtain ⟨field, -, rfl⟩ := List.mem_map.mp found
    exact isQuiet_memberLines comments field line held
  · unfold IsQuiet
    decide +kernel

theorem commentLines_interfaces (comments : Bool) (target : Target) :
    commentLines (Interface.moduleLines target.name
        (Interface.definitions comments target.tables Register.forScripts)) =
      (interfaceComments target).map Comment.shown := by
  have definitions : Interface.definitions comments target.tables Register.forScripts =
      (named .pascal target.tables).map fun entry =>
        Interface.definition comments entry.1 entry.2 :=
    Interface.definitions_eq comments target.tables Register.forScripts
  have noKebab : CaseStyle.pascal ≠ .kebab := by decide
  have sections := @commentLines_named .pascal noKebab target.tables
    (fun entry => (Interface.definition comments entry.1 entry.2).lines) (fun _ => [])
    fun entry plain => commentLines_interface comments entry.1 plain
  have title : ["// Generated TypeScript types" ++
      (if target.name = "" then "" else " for " ++ singleLine target.name)] =
        (interfaceComments target).map Comment.line := by
    rw [interfaceComments]
    split
    · decide +kernel
    · simp [Comment.line, ← String.append_assoc]
  have silent : target.tables.flatMap (fun _ => ([] : List String)) = [] := by simp
  rw [Interface.moduleLines, definitions, ← List.singleton_append, commentLines_append,
    List.flatMap_map, sections, silent, List.append_nil, title,
    Comment.commentLines_map (isFramed_interfaceComments target)]

/-! ## Pages -/

def pageComments (table : Table) : List Comment :=
  [{ start := "// File: src/pages/", text := table.name, ending := "/[slug].astro" },
   { start := "// Dynamic page for "
     text := if table.description = "" then table.name else table.description }]

theorem isFramed_pageComments (table : Table) :
    ∀ comment ∈ pageComments table, comment.IsFramed := by
  have file : Comment.IsFramed { start := "// File: src/pages/", ending := "/[slug].astro" } := by
    decide
  have page : Comment.IsFramed { start := "// Dynamic page for " } := by decide
  rw [pageComments, List.forall_mem_cons, List.forall_mem_singleton]
  exact ⟨file.withText _, page.withText _⟩

/-- The lines of a page that hold something: a script between dashes at its start. -/
def StartsWithScript (script page : List String) : Prop :=
  "---" ∉ script ∧ ∃ markup, page = "---" :: script ++ "---" :: markup

theorem isUnbroken_entriesVariable (table : Table) :
    IsUnbroken (Page.content table).entriesVariable :=
  (isPlain_convert_clean (by decide) _).isUnbroken.append (by decide)

theorem exists_scriptLines (table : Table) :
    ∃ code, Page.scriptLines (Page.content table) =
        "---" :: ((pageComments table).map Comment.line ++ (code ++ ["---"])) ∧
      ∀ line ∈ code, line = "" ∨ StartsCode line := by
  have entries := isUnbroken_entriesVariable table
  have collection := (isOneLine_scriptLiteral table.name).isUnbroken
  refine ⟨["", "import \x7b getCollection \x7d from 'astro:content';",
      "import type \x7b CollectionEntry \x7d from 'astro:content';", "",
      "export async function getStaticPaths() \x7b"] ++
    ["  const " ++ (Page.content table).entriesVariable ++ " = await getCollection(" ++
        scriptLiteral table.name ++ ");",
      "  return " ++ (Page.content table).entriesVariable ++ ".map((entry) => (\x7b"] ++
    ["    params: \x7b slug: entry.slug \x7d,", "    props: \x7b entry \x7d,", "  \x7d));",
      "\x7d", "", "type Props = \x7b"] ++
    ["  entry: CollectionEntry<" ++ scriptLiteral table.name ++ ">;"] ++
    ["\x7d;", "", "const \x7b entry \x7d = Astro.props;",
      "const \x7b Content \x7d = await entry.render();"], ?_, ?_⟩
  · simp [Page.scriptLines, Page.content, pageComments, Comment.line]
  simp only [List.forall_mem_append]
  refine ⟨⟨⟨⟨by decide, ?_⟩, by decide⟩, ?_⟩, by decide⟩
  · have const : StartsCode "  const " := by decide
    have return_ : StartsCode "  return " := by decide
    refine List.forall_mem_cons.mpr ⟨.inr ?_, List.forall_mem_singleton.mpr (.inr ?_)⟩
    · exact (((const.append entries).append (by decide)).append collection).append (by decide)
    · exact (return_.append entries).append (by decide)
  · have opening : StartsCode "  entry: CollectionEntry<" := by decide
    exact List.forall_mem_singleton.mpr (.inr ((opening.append collection).append (by decide)))

theorem startsWithScript_pageText (table : Table) (language : String) :
    ∃ script, StartsWithScript script (shownLines (Page.pageText language table)) ∧
      script.filter opensComment = (pageComments table).map Comment.shown := by
  obtain ⟨code, written, starts⟩ := exists_scriptLines table
  have comments := Comment.flatMap_shownLines (isFramed_pageComments table)
  have dashes : shownLines "---" = ["---"] := by decide +kernel
  have blank : shownLines "" = [] := by decide +kernel
  have silent : commentLines code = [] := by
    refine commentLines_of_isQuiet fun line mem => ?_
    rcases starts line mem with rfl | started
    · simp [IsQuiet, blank]
    · exact started.isQuiet
  have noDashes : ∀ line ∈ code, "---" ∉ shownLines line := by
    intro line mem
    rcases starts line mem with rfl | started
    · simp [blank]
    · exact started.not_dashes_mem
  refine ⟨(pageComments table).map Comment.shown ++ code.flatMap shownLines, ⟨?_, ?_⟩, ?_⟩
  · rw [List.mem_append, not_or]
    refine ⟨fun mem => ?_, fun mem => ?_⟩
    · obtain ⟨comment, held, same⟩ := List.mem_map.mp mem
      have opens := (isFramed_pageComments table comment held).shown.2
      rw [same] at opens
      exact absurd opens (by decide)
    · obtain ⟨line, held, inside⟩ := List.mem_flatMap.mp mem
      exact noDashes line held inside
  · refine ⟨(Page.markupLines language (Page.content table)).flatMap shownLines, ?_⟩
    rw [Page.pageText, shownLines_endedLines, written]
    simp [List.flatMap_append, dashes, ← comments]
  · rw [List.filter_append, ← comments, ← commentLines, ← commentLines, silent, List.append_nil,
      Comment.commentLines_map (isFramed_pageComments table), comments]

theorem mapM_of_forall_ok {ε α β : Type} {next : α → Except ε β} {made : α → β} {items : List α}
    (each : ∀ item ∈ items, next item = .ok (made item)) :
    items.mapM next = .ok (items.map made) := by
  induction items with
  | nil => rfl
  | cons item rest ih =>
      obtain ⟨first, later⟩ := List.forall_mem_cons.mp each
      rw [List.mapM_cons, first, ih later]
      rfl

theorem exists_tableByTable {tableText : Table → Except Fault String} {text : Table → String}
    {target : Target} (each : ∀ table ∈ target.tables, tableText table = .ok (text table)) :
    ∃ code, tableByTable tableText target = .ok code ∧
      shownLines code = target.tables.flatMap fun table => shownLines (text table) := by
  cases target with
  | table table =>
      refine ⟨text table, each table (List.mem_singleton_self table), ?_⟩
      exact (List.flatMap_singleton (fun table => shownLines (text table)) table).symm
  | schema schema =>
      refine ⟨joined (schema.tables.map text), ?_, ?_⟩
      · exact congrArg (Except.map joined) (mapM_of_forall_ok each)
      · rw [shownLines_joined, List.flatMap_map]
        rfl

theorem language_eq_ok_iff {settings : Settings} {language : String} :
    Page.language settings = .ok language ↔ settings.pageLang = .str language := by
  rw [Page.language]
  cases settings.pageLang <;> simp

def languagePage (settings : Settings) (table : Table) : Except Fault String := do
  return Page.pageText (← Page.language settings) table

/-- There is a language, unless there is no table for which it is asked. -/
def KnowsLanguage (settings : Settings) (target : Target) : Prop :=
  target.tables ≠ [] → ∃ language, settings.pageLang = .str language

section Pages

variable {settings : Settings} {target : Target} {code : String}

theorem knowsLanguage_of_pages (given : tableByTable (languagePage settings) target = .ok code) :
    KnowsLanguage settings target := by
  have known {table : Table} {text : String} (made : languagePage settings table = .ok text) :
      ∃ language, settings.pageLang = .str language := by
    obtain ⟨language, found, -⟩ := bind_eq_ok_iff.mp made
    exact ⟨language, language_eq_ok_iff.mp found⟩
  intro nonempty
  cases target with
  | table table => exact known given
  | schema schema =>
      obtain ⟨texts, found, -⟩ := map_eq_ok_iff.mp given
      obtain ⟨first, rest, split⟩ := List.exists_cons_of_ne_nil nonempty
      rw [show schema.tables = first :: rest from split, List.mapM_cons, bind_eq_ok_iff] at found
      obtain ⟨_, made, -⟩ := found
      exact known made

theorem exists_pages (known : KnowsLanguage settings target) :
    ∃ language code, tableByTable (languagePage settings) target = .ok code ∧
      shownLines code = target.tables.flatMap fun table =>
        shownLines (Page.pageText language table) := by
  obtain ⟨language, each⟩ : ∃ language, ∀ table ∈ target.tables,
      languagePage settings table = .ok (Page.pageText language table) := by
    by_cases empty : target.tables = []
    · exact ⟨"", by simp [empty]⟩
    · obtain ⟨language, set⟩ := known empty
      refine ⟨language, fun table _ => ?_⟩
      rw [languagePage, language_eq_ok_iff.mpr set]
      rfl
  exact ⟨language, exists_tableByTable each⟩

end Pages

/-! ## Generators -/

namespace Kind

def scripted : List Kind := [contentConfig, typescript, page]

/-- Whether scripts are those of lines that hold something: of pages one after another, or of a
module, which is one script. -/
def AreScripts (kind : Kind) (scripts : List (List String)) (shown : List String) : Prop :=
  if kind = page then
    ∃ pages, List.Forall₂ StartsWithScript scripts pages ∧ shown = pages.flatten
  else scripts = [shown]

def comments (kind : Kind) (settings : Settings) (target : Target) : List (List Comment) :=
  match kind with
  | contentConfig => [collectionComments (showsComments settings) target]
  | typescript => [interfaceComments target]
  | page => target.tables.map pageComments
  | _ => []

/-- The scripts among the lines of a text show their comments and no others. -/
def ShowsComments (kind : Kind) (settings : Settings) (target : Target) (shown : List String) :
    Prop :=
  ∃ scripts, kind.AreScripts scripts shown ∧
    scripts.map (·.filter opensComment) =
      (kind.comments settings target).map (·.map Comment.shown)

end Kind

theorem Kind.isFramed_comments (kind : Kind) (settings : Settings) (target : Target) :
    ∀ comments ∈ kind.comments settings target, ∀ comment ∈ comments, comment.IsFramed := by
  cases kind
  case contentConfig => exact List.forall_mem_singleton.mpr (isFramed_collectionComments _ target)
  case typescript => exact List.forall_mem_singleton.mpr (isFramed_interfaceComments target)
  case page => exact List.forall_mem_map.mpr fun table _ => isFramed_pageComments table
  all_goals exact List.forall_mem_nil _

theorem showsComments_module {kind : Kind} (noPage : kind ≠ .page) {settings : Settings}
    {target : Target} {written : List String} {comments : List Comment}
    (shows : commentLines written = comments.map Comment.shown)
    (only : kind.comments settings target = [comments]) :
    kind.ShowsComments settings target (shownLines (Collection.endedLines written)) := by
  refine ⟨[written.flatMap shownLines], ?_, ?_⟩
  · rw [Kind.AreScripts, if_neg noPage, shownLines_endedLines]
  · rw [only, List.map_singleton, List.map_singleton, ← shows, commentLines]

theorem showsComments_pages (settings : Settings) (target : Target) (language : String) :
    Kind.page.ShowsComments settings target
      (target.tables.flatMap fun table => shownLines (Page.pageText language table)) := by
  choose script starts shows using startsWithScript_pageText
  refine ⟨target.tables.map fun table => script table language,
    ⟨target.tables.map fun table => shownLines (Page.pageText language table), ?_,
      List.flatMap_def⟩, ?_⟩
  · rw [List.forall₂_map_left_iff, List.forall₂_map_right_iff, List.forall₂_same]
    exact fun table _ => starts table language
  · simp only [Kind.comments, List.map_map]
    exact List.map_congr_left fun table _ => shows table language

theorem exists_scriptGenerator {kind : Kind} (scripted : kind ∈ Kind.scripted)
    (settings : Settings) :
    ∃ generator, kind.generator settings {} = .ok generator ∧ generator.settings = settings ∧
      generator.layOut = tidied ∧ generator.endsLines = true ∧ ∀ target,
        ((∃ code, generator.text target = .ok code) ↔
          (kind = .page → KnowsLanguage settings target)) ∧
        ∀ code, generator.text target = .ok code →
          kind.ShowsComments settings target (shownLines code) := by
  simp only [Kind.scripted, List.mem_cons, List.not_mem_nil, or_false] at scripted
  rcases scripted with rfl | rfl | rfl
  · refine ⟨_, rfl, rfl, rfl, rfl, fun target => ⟨⟨fun _ => nofun, fun _ => ⟨_, rfl⟩⟩, ?_⟩⟩
    intro code given
    obtain rfl := Except.ok.inj given
    exact showsComments_module (by decide) (commentLines_collections _ target) rfl
  · refine ⟨_, rfl, rfl, rfl, rfl, fun target => ⟨⟨fun _ => nofun, fun _ => ⟨_, rfl⟩⟩, ?_⟩⟩
    intro code given
    obtain rfl := Except.ok.inj given
    exact showsComments_module (by decide) (commentLines_interfaces _ target) rfl
  · refine ⟨_, rfl, rfl, rfl, rfl, fun target => ⟨⟨?_, ?_⟩, ?_⟩⟩
    · rintro ⟨code, given⟩ -
      exact knowsLanguage_of_pages given
    · intro known
      obtain ⟨language, code, given, -⟩ := exists_pages (known rfl)
      exact ⟨code, given⟩
    · intro code given
      obtain ⟨language, other, written, shown⟩ := exists_pages (knowsLanguage_of_pages given)
      obtain rfl : code = other := Except.ok.inj (given.symm.trans written)
      rw [shown]
      exact showsComments_pages settings target language

theorem Generator.content_eq_ok_iff {generator : Generator} (ends : generator.endsLines = true)
    {target : Target} {content : String} :
    generator.content target = .ok content ↔
      ∃ code ending, generator.text target = .ok code ∧
        generator.settings.lineEnding = .str ending ∧
        content = Text.withLineEnding ending (generator.layOut code) := by
  rw [Generator.content, bind_eq_ok_iff]
  refine exists_congr fun code => ?_
  rw [exists_and_left, and_congr_right_iff]
  intro _
  rw [Generator.format, if_pos ends, Generator.withLineEnding, Settings.lineEndingText]
  cases generator.settings.lineEnding <;> simp [bind, Except.bind, pure, Except.pure, eq_comm]

/--
The scripts of modules and pages show the comments of their targets and no others, each on a line of
its own.  No line break is left in a comment.  A separator of lines or paragraphs is left if it
stands in the text among blanks without a line break: a script reads the comment to its end just if
the text has no such separator.  There is a content unless the settings have no line ending, or no
language for the pages of some table.
-/
theorem comments_of_scripts {kind : Kind} (scripted : kind ∈ Kind.scripted) (settings : Settings) :
    ∃ generator, kind.generator settings {} = .ok generator ∧ ∀ target,
      ((∃ content, generator.content target = .ok content) ↔
        (∃ ending, settings.lineEnding = .str ending) ∧
          (kind = .page → KnowsLanguage settings target)) ∧
      ∀ content, generator.content target = .ok content → ∃ ending body,
        settings.lineEnding = .str ending ∧ content = Text.withLineEnding ending body ∧
        kind.ShowsComments settings target (filledLinesOf body) ∧
        ∀ comments ∈ kind.comments settings target, ∀ comment ∈ comments,
          IsOneLine comment.shown ∧
          ((∀ c ∈ comment.shown.toList, endsScriptLine c = false) ↔
            LosesSeparators comment.text) := by
  obtain ⟨generator, made, rfl, tidies, ends, texts⟩ := exists_scriptGenerator scripted settings
  refine ⟨generator, made, fun target => ⟨?_, fun content given => ?_⟩⟩
  · rw [← (texts target).1]
    constructor
    · rintro ⟨content, given⟩
      obtain ⟨code, ending, written, set, -⟩ := (Generator.content_eq_ok_iff ends).mp given
      exact ⟨⟨ending, set⟩, code, written⟩
    · rintro ⟨⟨ending, set⟩, code, written⟩
      exact ⟨_, (Generator.content_eq_ok_iff ends).mpr ⟨code, ending, written, set, rfl⟩⟩
  · obtain ⟨code, ending, written, set, rfl⟩ := (Generator.content_eq_ok_iff ends).mp given
    refine ⟨ending, tidied code, set, by rw [tidies], ?_, fun comments held comment mem => ?_⟩
    · rw [filledLinesOf_tidied]
      exact (texts target).2 code written
    · have framed := kind.isFramed_comments _ target comments held comment mem
      exact ⟨framed.isOneLine_shown, framed.closed_shown_iff⟩

def brokenShop : Schema := { name := "shop\r\n\u2028import './x.js'" }

theorem comments_of_scripts_brokenShop :
    Kind.contentConfig ∈ Kind.scripted ∧ LosesSeparators brokenShop.name ∧
    ∃ generator content, Kind.contentConfig.generator {} {} = .ok generator ∧
      generator.content (.schema brokenShop) = .ok content ∧
      (filledLinesOf content).filter opensComment =
        ["// Content collection configuration", "// File: src/content/config.ts",
         "// shop import './x.js'"] := by
  have scripted : Kind.contentConfig ∈ Kind.scripted := by decide
  obtain ⟨generator, made, contents⟩ := comments_of_scripts scripted {}
  obtain ⟨available, shows⟩ := contents (.schema brokenShop)
  obtain ⟨content, given⟩ := available.mpr ⟨⟨"\n", rfl⟩, nofun⟩
  obtain ⟨ending, body, set, written, ⟨scripts, whole, comments⟩, -⟩ := shows content given
  obtain rfl : "\n" = ending := Json.str.inj set
  rw [withLineEnding_lineFeed] at written
  obtain rfl : scripts = [filledLinesOf body] := whole
  refine ⟨scripted, by decide +kernel, generator, content, made, given, ?_⟩
  rw [written]
  refine (List.singleton_inj.mp comments).trans ?_
  decide +kernel

def separatedShop : Schema := { name := "shop\u2028import './x.js'" }

/-- What stands after the separator is left for a script to read. -/
theorem comments_of_scripts_separatedShop :
    ∃ generator content, Kind.contentConfig.generator {} {} = .ok generator ∧
      generator.content (.schema separatedShop) = .ok content ∧
      "// shop\u2028import './x.js'" ∈ filledLinesOf content ∧
      singleLine separatedShop.name = "shop\u2028import './x.js'" ∧
      endsScriptLine '\u2028' = true ∧ ¬ LosesSeparators separatedShop.name := by
  have shows := commentLines_collections true (.schema separatedShop)
  have mem : "// shop\u2028import './x.js'" ∈
      (collectionComments true (.schema separatedShop)).map Comment.shown := by
    decide +kernel
  rw [← shows] at mem
  obtain ⟨generator, made, texts, tidies, set⟩ : ∃ generator,
      Kind.contentConfig.generator {} {} = .ok generator ∧
      (∀ target, generator.text target = .ok (Collection.moduleText true target)) ∧
      generator.layOut = tidied ∧ generator.settings.lineEnding = .str "\n" :=
    ⟨_, rfl, fun _ => rfl, rfl, rfl⟩
  refine ⟨generator, _, made, Generator.content_of_lineFeed set (texts _), ?_, by decide +kernel,
    by decide, by decide +kernel⟩
  rw [tidies, filledLinesOf_tidied, ← shownLines, Collection.moduleText, shownLines_endedLines]
  exact List.mem_of_mem_filter mem

end SchemaArtifacts.Artifact
