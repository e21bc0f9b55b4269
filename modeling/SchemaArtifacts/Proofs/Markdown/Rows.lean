import Mathlib.Data.List.Basic
import SchemaArtifacts.Markdown.Reference
import SchemaArtifacts.Proofs.Escape.Line

/-!
# Rows of a Markdown table

A row is cut into cells at its pipes, but for those after an odd number of backslashes.  Text is put
into a cell with a backslash before each pipe, so a pipe that has an odd number of them already cuts
the cell in two.  A line feed becomes a tag, and so does the carriage return before it; any other
carriage return stays where it is and breaks the line of the row, unless it stands at an end of the
text and is trimmed away.
-/

namespace SchemaArtifacts.Markdown

open Escape Text

def slashesAfter (slashes : Nat) (c : Char) : Nat := if c = '\\' then slashes + 1 else 0

/-- The pieces of a text between its pipes, but for the pipes after an odd number of backslashes.
So many backslashes stand before the text. -/
def pieces (slashes : Nat) : List Char → List (List Char)
  | [] => [[]]
  | c :: rest =>
    if c = '|' ∧ slashes % 2 = 0 then [] :: pieces 0 rest
    else (pieces (slashesAfter slashes c) rest).modifyHead (c :: ·)

/-- The cells of a row stand between its first and its last pipe. -/
def HasCells (row : List Char) (cells : List (List Char)) : Prop :=
  pieces 0 row = [] :: cells ++ [[]]

section Pieces

variable {slashes : Nat} {c : Char} {cs rest : List Char}

theorem pieces_cons (plain : c ≠ '|') (slashes : Nat) (rest : List Char) :
    pieces slashes (c :: rest) =
      (pieces (slashesAfter slashes c) rest).modifyHead (c :: ·) :=
  if_neg fun cut => plain cut.1

theorem length_pieces_cons (plain : c ≠ '|') :
    (pieces slashes (c :: rest)).length = (pieces (slashesAfter slashes c) rest).length := by
  rw [pieces_cons plain, List.length_modifyHead]

theorem pieces_pipe (rest : List Char) : pieces 0 ('|' :: rest) = [] :: pieces 0 rest := rfl

theorem length_pieces_pos (slashes : Nat) (cs : List Char) : 0 < (pieces slashes cs).length := by
  induction cs generalizing slashes with
  | nil => simp [pieces]
  | cons c rest ih =>
      rw [pieces]
      split
      · simp
      · simpa using ih _

theorem length_pieces_append (starts : ∀ c ∈ rest.head?, c ≠ '|' ∧ c ≠ '\\') :
    (pieces slashes (cs ++ rest)).length + 1 =
      (pieces slashes cs).length + (pieces 0 rest).length := by
  induction cs generalizing slashes with
  | nil =>
      cases rest with
      | nil => rfl
      | cons c rest =>
          obtain ⟨plain, other⟩ := starts c rfl
          rw [List.nil_append, pieces_cons plain, pieces_cons plain, slashesAfter, slashesAfter,
            if_neg other, if_neg other, pieces]
          exact Nat.add_comm _ _
  | cons c cs ih =>
      rw [List.cons_append, pieces, pieces]
      split
      · have := @ih 0
        simp only [List.length_cons]
        omega
      · simpa using ih

theorem length_pieces_eq_one_iff : (pieces slashes cs).length = 1 ↔ pieces slashes cs = [cs] := by
  refine ⟨fun single => ?_, fun whole => by rw [whole]; rfl⟩
  induction cs generalizing slashes with
  | nil => rfl
  | cons c rest ih =>
      rw [pieces] at single ⊢
      split at single
      case isTrue cut =>
        have := length_pieces_pos 0 rest
        rw [List.length_cons] at single
        omega
      case isFalse uncut =>
        rw [if_neg uncut, ih (by simpa using single)]
        rfl

theorem pieces_append_cell (whole : pieces slashes cs = [cs]) (rest : List Char) :
    pieces slashes (cs ++ ' ' :: '|' :: rest) = (cs ++ [' ']) :: pieces 0 rest := by
  induction cs generalizing slashes with
  | nil => rfl
  | cons c cs ih =>
      have single := length_pieces_eq_one_iff.mpr whole
      rw [List.cons_append, pieces]
      rw [pieces] at single
      split at single
      case isTrue cut =>
        have := length_pieces_pos 0 cs
        rw [List.length_cons] at single
        omega
      case isFalse uncut =>
        rw [List.length_modifyHead] at single
        rw [if_neg uncut, ih (length_pieces_eq_one_iff.mp single)]
        rfl

end Pieces

section Rows

variable {cells : List String}

def padded (cell : String) : List Char := ' ' :: cell.toList ++ [' ']

def rowBody (cells : List String) : List Char :=
  cells.flatMap fun cell => padded cell ++ ['|']

theorem rowBody_cons (cell : String) (rest : List String) :
    rowBody (cell :: rest) = ' ' :: cell.toList ++ ' ' :: '|' :: rowBody rest := by
  simp [rowBody, padded]

theorem toList_gridLine (nonempty : cells ≠ []) :
    (Block.gridLine cells).toList = '|' :: rowBody cells := by
  have body : ' ' :: (String.intercalate " | " cells).toList ++ [' ', '|'] = rowBody cells := by
    induction cells with
    | nil => exact absurd rfl nonempty
    | cons cell rest ih =>
        cases rest with
        | nil => simp [rowBody, padded, String.intercalate_singleton]
        | cons next others =>
            rw [rowBody_cons, ← ih (by simp)]
            simp [String.intercalate_cons_cons]
  rw [← body]
  simp [Block.gridLine]

theorem length_pieces_blank (slashes : Nat) (cs : List Char) :
    (pieces slashes (' ' :: cs)).length = (pieces 0 cs).length :=
  length_pieces_cons (by decide)

theorem length_pieces_gridLine (nonempty : cells ≠ []) :
    (pieces 0 (Block.gridLine cells).toList).length =
      (cells.flatMap fun cell => pieces 0 cell.toList).length + 2 := by
  rw [toList_gridLine nonempty, pieces_pipe, List.length_cons]
  clear nonempty
  induction cells with
  | nil => rfl
  | cons cell rest ih =>
      have ends : ∀ c ∈ (' ' :: '|' :: rowBody rest).head?, c ≠ '|' ∧ c ≠ '\\' := by simp
      have cut := @length_pieces_append 0 (' ' :: cell.toList) _ ends
      rw [length_pieces_blank, length_pieces_blank, pieces_pipe, List.length_cons] at cut
      rw [rowBody_cons, List.flatMap_cons, List.length_append]
      omega

theorem hasCells_gridLine (nonempty : cells ≠ [])
    (whole : ∀ cell ∈ cells, pieces 0 cell.toList = [cell.toList]) :
    HasCells (Block.gridLine cells).toList (cells.map padded) := by
  rw [HasCells, toList_gridLine nonempty, pieces_pipe, List.cons_append]
  refine congrArg _ ?_
  clear nonempty
  induction cells with
  | nil => rfl
  | cons cell rest ih =>
      obtain ⟨first, later⟩ := List.forall_mem_cons.mp whole
      have uncut : pieces 0 (' ' :: cell.toList) = [' ' :: cell.toList] := by
        rw [← length_pieces_eq_one_iff, length_pieces_blank, first, List.length_singleton]
      rw [rowBody_cons, pieces_append_cell uncut, ih later]
      rfl

theorem length_flatMap_eq_iff {α β : Type} {f : α → List β} (nonempty : ∀ a, f a ≠ [])
    (items : List α) :
    (items.flatMap f).length = items.length ↔ ∀ item ∈ items, (f item).length = 1 := by
  have atLeast (rest : List α) : rest.length ≤ (rest.flatMap f).length := by
    induction rest with
    | nil => exact Nat.le_refl 0
    | cons item rest ih =>
        have := List.length_pos_of_ne_nil (nonempty item)
        rw [List.length_cons, List.flatMap_cons, List.length_append]
        omega
  induction items with
  | nil => simp
  | cons item rest ih =>
      have := List.length_pos_of_ne_nil (nonempty item)
      have := atLeast rest
      rw [List.flatMap_cons, List.length_append, List.length_cons]
      constructor
      · intro total
        exact List.forall_mem_cons.mpr ⟨by omega, ih.mp (by omega)⟩
      · intro single
        obtain ⟨first, later⟩ := List.forall_mem_cons.mp single
        rw [first, ih.mpr later, Nat.add_comm]

theorem exists_hasCells_iff (nonempty : cells ≠ []) :
    (∃ parts, HasCells (Block.gridLine cells).toList parts ∧ parts.length = cells.length) ↔
      ∀ cell ∈ cells, (pieces 0 cell.toList).length = 1 := by
  constructor
  · rintro ⟨parts, cut, count⟩
    have total := length_pieces_gridLine nonempty
    rw [cut, List.length_append, List.length_cons, List.length_singleton, count] at total
    have nonempty' (cell : String) : pieces 0 cell.toList ≠ [] :=
      List.ne_nil_of_length_pos (length_pieces_pos 0 cell.toList)
    exact (length_flatMap_eq_iff nonempty' cells).mp (by omega)
  · intro single
    refine ⟨_, hasCells_gridLine nonempty fun cell mem => ?_, List.length_map _⟩
    exact length_pieces_eq_one_iff.mp (single cell mem)

end Rows

/-! ## Texts in cells -/

/-- A text as it stands in a cell, but for the blanks at its ends. -/
def cellBody : List Char → List Char
  | [] => []
  | '\r' :: '\n' :: rest => "<br>".toList ++ cellBody rest
  | '\n' :: rest => "<br>".toList ++ cellBody rest
  | '|' :: rest => '\\' :: '|' :: cellBody rest
  | c :: rest => c :: cellBody rest

theorem cellChars_eq (cs : List Char) : cellChars cs = trimChars (cellBody cs) := by
  refine congrArg trimChars ?_
  fun_induction cellBody cs with
  | case1 => rfl
  | case2 rest ih => simpa [breakTags] using ih
  | case3 rest ih => simpa [breakTags] using ih
  | case4 rest ih => simpa [breakTags] using ih
  | case5 c rest noReturn noBreak noPipe ih =>
      rw [← ih, List.flatMap_cons, if_neg noPipe, List.singleton_append, breakTags]
      case x_1 =>
        rintro others rfl start
        cases rest with
        | nil => cases start
        | cons next rest =>
            rw [List.flatMap_cons] at start
            split at start
            · cases start
            · exact noReturn rest rfl (congrArg (· :: rest) (List.cons.inj start).1)
      case x_2 => exact noBreak

/-- A pipe in a text that has an odd number of backslashes before it, of which so many stand before
the text. -/
def HasStrayPipe (slashes : Nat) (cs : List Char) : Prop :=
  ∃ before after, cs = before ++ '|' :: after ∧ (before.foldl slashesAfter slashes) % 2 = 1

theorem hasStrayPipe_cons {slashes : Nat} {c : Char} {rest : List Char} :
    HasStrayPipe slashes (c :: rest) ↔
      c = '|' ∧ slashes % 2 = 1 ∨ HasStrayPipe (slashesAfter slashes c) rest := by
  constructor
  · rintro ⟨before, after, written, odd⟩
    cases before with
    | nil => exact .inl ⟨(List.cons.inj written).1, odd⟩
    | cons first before =>
        obtain ⟨rfl, others⟩ := List.cons.inj written
        exact .inr ⟨before, after, others, odd⟩
  · rintro (⟨rfl, odd⟩ | ⟨before, after, rfl, odd⟩)
    · exact ⟨[], rest, rfl, odd⟩
    · exact ⟨c :: before, after, rfl, odd⟩

theorem length_pieces_cellBody (slashes : Nat) (cs : List Char) :
    (pieces slashes (cellBody cs)).length = 1 ↔ ¬ HasStrayPipe slashes cs := by
  fun_induction cellBody cs generalizing slashes with
  | case1 => simp [pieces, HasStrayPipe]
  | case2 rest ih => simp [length_pieces_cons, hasStrayPipe_cons, slashesAfter, ih]
  | case3 rest ih => simp [length_pieces_cons, hasStrayPipe_cons, slashesAfter, ih]
  | case4 rest ih =>
      rw [length_pieces_cons (by decide), hasStrayPipe_cons, pieces]
      by_cases odd : slashes % 2 = 1
      · have cut : slashesAfter slashes '\\' % 2 = 0 := by
          rw [slashesAfter, if_pos rfl]
          omega
        have := length_pieces_pos 0 (cellBody rest)
        rw [if_pos ⟨rfl, cut⟩, List.length_cons]
        exact iff_of_false (by omega) (not_not.mpr (.inl ⟨rfl, odd⟩))
      · have uncut : ¬ slashesAfter slashes '\\' % 2 = 0 := by
          rw [slashesAfter, if_pos rfl]
          omega
        rw [if_neg fun cut => uncut cut.2, List.length_modifyHead, ih,
          or_iff_right fun stray => odd stray.2]
        rfl
  | case5 c rest noReturn noBreak noPipe ih =>
      rw [length_pieces_cons noPipe, ih, hasStrayPipe_cons,
        or_iff_right fun stray => noPipe stray.1]

def isShown (c : Char) : Bool := c == '\n' || !isBlank c

/-- A carriage return without a line feed after it, between characters that show. -/
def HasLoneReturn (cs : List Char) : Prop :=
  ∃ before after, cs = before ++ '\r' :: after ∧ after.head? ≠ some '\n' ∧
    before.any isShown ∧ after.any isShown

theorem any_cellBody (cs : List Char) :
    (cellBody cs).any (fun c => !isBlank c) = cs.any isShown := by
  fun_induction cellBody cs with
  | case1 => rfl
  | case2 rest ih => rfl
  | case3 rest ih => rfl
  | case4 rest ih => rfl
  | case5 c rest noReturn noBreak noPipe ih =>
      have other : (c == '\n') = false := beq_false_of_ne noBreak
      rw [List.any_cons, List.any_cons, ih, isShown, other, Bool.false_or]

theorem cellBody_cons {c : Char} {rest : List Char} (noBreak : c ≠ '\n') (noPipe : c ≠ '|')
    (alone : c = '\r' → rest.head? ≠ some '\n') : cellBody (c :: rest) = c :: cellBody rest := by
  rw [cellBody]
  case x_1 =>
    rintro others returns rfl
    exact alone returns rfl
  case x_2 => exact noBreak
  case x_3 => exact noPipe

theorem cellBody_append_return {after : List Char} (alone : after.head? ≠ some '\n')
    (before : List Char) :
    cellBody (before ++ '\r' :: after) = cellBody before ++ '\r' :: cellBody after := by
  fun_induction cellBody before with
  | case1 => exact cellBody_cons (by decide) (by decide) fun _ => alone
  | case2 rest ih | case3 rest ih | case4 rest ih => simp [cellBody, ih]
  | case5 c rest noReturn noBreak noPipe ih =>
      rw [List.cons_append, cellBody_cons noBreak noPipe, ih, List.cons_append]
      rintro rfl
      cases rest with
      | nil => simp
      | cons next others =>
          rintro start
          obtain rfl : next = '\n' := Option.some.inj start
          exact noReturn others rfl rfl

theorem exists_of_append_eq {start rest before after : List Char} (plain : '\r' ∉ start)
    (same : start ++ rest = before ++ '\r' :: after) :
    ∃ others, before = start ++ others ∧ rest = others ++ '\r' :: after := by
  induction start generalizing before with
  | nil => exact ⟨before, rfl, same⟩
  | cons c start ih =>
      obtain ⟨other, later⟩ := not_or.mp (List.mem_cons.not.mp plain)
      cases before with
      | nil => exact absurd (List.cons.inj same).1.symm other
      | cons first before =>
          obtain ⟨rfl, inner⟩ := List.cons.inj same
          obtain ⟨others, rfl, rest⟩ := ih later inner
          exact ⟨others, rfl, rest⟩

theorem exists_of_cellBody_eq {cs before after : List Char}
    (written : cellBody cs = before ++ '\r' :: after) :
    ∃ first last, cs = first ++ '\r' :: last ∧ last.head? ≠ some '\n' ∧
      cellBody first = before ∧ cellBody last = after := by
  fun_induction cellBody cs generalizing before with
  | case1 => simp at written
  | case2 rest ih =>
      obtain ⟨others, rfl, inner⟩ := exists_of_append_eq (by decide) written
      obtain ⟨first, last, rfl, alone, rfl, rfl⟩ := ih inner
      exact ⟨'\r' :: '\n' :: first, last, rfl, alone, rfl, rfl⟩
  | case3 rest ih =>
      obtain ⟨others, rfl, inner⟩ := exists_of_append_eq (by decide) written
      obtain ⟨first, last, rfl, alone, rfl, rfl⟩ := ih inner
      exact ⟨'\n' :: first, last, rfl, alone, rfl, rfl⟩
  | case4 rest ih =>
      have tag : ['\\', '|'] ++ cellBody rest = before ++ '\r' :: after := written
      obtain ⟨others, rfl, inner⟩ := exists_of_append_eq (by decide) tag
      obtain ⟨first, last, rfl, alone, rfl, rfl⟩ := ih inner
      exact ⟨'|' :: first, last, rfl, alone, rfl, rfl⟩
  | case5 c rest noReturn noBreak noPipe ih =>
      cases before with
      | nil =>
          obtain ⟨rfl, rfl⟩ := List.cons.inj written
          refine ⟨[], rest, rfl, fun start => ?_, rfl, rfl⟩
          obtain ⟨others, rfl⟩ := List.head?_eq_some_iff.mp start
          exact noReturn others rfl rfl
      | cons d before =>
          obtain ⟨rfl, inner⟩ := List.cons.inj written
          obtain ⟨first, last, rfl, alone, rfl, rfl⟩ := ih inner
          refine ⟨c :: first, last, rfl, alone, cellBody_cons noBreak noPipe ?_, rfl⟩
          rintro rfl start
          obtain ⟨others, rfl⟩ := List.head?_eq_some_iff.mp start
          exact noReturn _ rfl rfl

theorem mem_cellChars_return_iff {cs : List Char} : '\r' ∈ cellChars cs ↔ HasLoneReturn cs := by
  rw [cellChars_eq, mem_trimChars_iff (by decide)]
  constructor
  · rintro ⟨before, after, written, shown, shown'⟩
    obtain ⟨first, last, rfl, alone, rfl, rfl⟩ := exists_of_cellBody_eq written
    rw [any_cellBody] at shown shown'
    exact ⟨first, last, rfl, alone, shown, shown'⟩
  · rintro ⟨first, last, rfl, alone, shown, shown'⟩
    rw [← any_cellBody] at shown shown'
    exact ⟨_, _, cellBody_append_return alone first, shown, shown'⟩

theorem length_pieces_blanks {before : List Char} (blank : ∀ c ∈ before, isBlank c = true)
    (cs : List Char) : (pieces 0 (before ++ cs)).length = (pieces 0 cs).length := by
  induction before with
  | nil => rfl
  | cons c before ih =>
      obtain ⟨first, later⟩ := List.forall_mem_cons.mp blank
      have plain : c ≠ '|' ∧ c ≠ '\\' := by
        constructor <;> rintro rfl <;> exact absurd first (by decide)
      rw [List.cons_append, length_pieces_cons plain.1, slashesAfter, if_neg plain.2, ih later]

theorem length_pieces_trimChars (cs : List Char) :
    (pieces 0 (trimChars cs)).length = (pieces 0 cs).length := by
  obtain ⟨before, after, blank, blank', whole⟩ := exists_between_blanks cs
  have starts : ∀ c ∈ after.head?, c ≠ '|' ∧ c ≠ '\\' := by
    intro c mem
    have first := blank' c (List.mem_of_mem_head? mem)
    constructor <;> rintro rfl <;> exact absurd first (by decide)
  have ended := @length_pieces_append 0 (trimChars cs) _ starts
  have single := length_pieces_blanks blank' []
  rw [List.append_nil] at single
  rw [single, pieces, List.length_singleton] at ended
  conv_rhs => rw [whole, List.append_assoc, length_pieces_blanks blank]
  exact (Nat.add_right_cancel ended).symm

theorem length_pieces_cellChars {cs : List Char} :
    (pieces 0 (cellChars cs)).length = 1 ↔ ¬ HasStrayPipe 0 cs := by
  rw [cellChars_eq, length_pieces_trimChars, length_pieces_cellBody]

end SchemaArtifacts.Markdown
