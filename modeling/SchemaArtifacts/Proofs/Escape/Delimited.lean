import SchemaArtifacts.Escape.Delimited
import SchemaArtifacts.Proofs.Text.Lines
import SchemaArtifacts.Proofs.Text.Reading
import SchemaArtifacts.Sql.Statement

/-!
# Delimited text read back

A text between delimiters ends at the first delimiter that is not doubled.  What is written with
its delimiters doubled is read back from whatever follows, unless that starts with a delimiter, and
nothing else is read as the text.
Another line ending without quotes does in a literal what it does in the text of the literal.
-/

namespace SchemaArtifacts.Escape

open Text

def readDelimited (delimiter : Char) : Reader Char (List Char)
  | [] => none
  | [c] => if c = delimiter then some ([], []) else none
  | c :: next :: rest =>
    if c ≠ delimiter then
      (readDelimited delimiter (next :: rest)).map fun (text, rest) => (c :: text, rest)
    else if next = delimiter then
      (readDelimited delimiter rest).map fun (text, rest) => (delimiter :: text, rest)
    else some ([], next :: rest)

def readString : Reader Char (List Char)
  | '\'' :: cs => readDelimited '\'' cs
  | _ => none

section Reading

variable {delimiter : Char} {rest : List Char}

theorem readDelimited_close (ends : rest.head? ≠ some delimiter) :
    readDelimited delimiter (delimiter :: rest) = some ([], rest) := by
  cases rest with
  | nil => simp [readDelimited]
  | cons next rest =>
      have other : next ≠ delimiter := by simpa using ends
      simp [readDelimited, other]

theorem readDelimited_doubled (cs : List Char) (ends : rest.head? ≠ some delimiter) :
    readDelimited delimiter (doubled delimiter cs ++ delimiter :: rest) = some (cs, rest) := by
  induction cs with
  | nil => exact readDelimited_close ends
  | cons c cs ih =>
      by_cases same : c = delimiter
      · subst same
        have twice : doubled c (c :: cs) = c :: c :: doubled c cs := by simp [doubled]
        rw [twice, List.cons_append, List.cons_append, readDelimited, ih]
        simp
      · have once : doubled delimiter (c :: cs) = c :: doubled delimiter cs := by
          simp [doubled, same]
        obtain ⟨next, others, remaining⟩ : ∃ next others,
            doubled delimiter cs ++ delimiter :: rest = next :: others :=
          List.exists_cons_of_ne_nil (by simp)
        rw [remaining] at ih
        rw [once, List.cons_append, remaining, readDelimited, if_pos same, ih]
        rfl

theorem eq_of_readDelimited {cs text : List Char}
    (read : readDelimited delimiter cs = some (text, rest)) :
    cs = doubled delimiter text ++ delimiter :: rest := by
  fun_induction readDelimited delimiter cs generalizing text rest with
  | case1 => cases read
  | case2 =>
      cases read
      rfl
  | case3 => cases read
  | case4 c next others plain ih =>
      obtain ⟨⟨inner, _⟩, taken, same⟩ := Option.map_eq_some_iff.mp read
      cases same
      rw [ih taken]
      simp [doubled, plain]
  | case5 c others closes ih =>
      obtain ⟨⟨inner, _⟩, taken, same⟩ := Option.map_eq_some_iff.mp read
      cases same
      rw [not_not.mp closes, ih taken]
      simp [doubled]
  | case6 c next others closes single =>
      cases read
      rw [not_not.mp closes]
      rfl

theorem head?_of_readDelimited {cs text : List Char}
    (read : readDelimited delimiter cs = some (text, rest)) : rest.head? ≠ some delimiter := by
  fun_induction readDelimited delimiter cs generalizing text with
  | case1 => cases read
  | case2 =>
      cases read
      simp
  | case3 => cases read
  | case4 c next others plain ih | case5 c others closes ih =>
      obtain ⟨⟨inner, _⟩, taken, same⟩ := Option.map_eq_some_iff.mp read
      cases same
      exact ih taken
  | case6 c next others closes single =>
      cases read
      simpa using single

end Reading

def readBetween (delimiter : Char) : Reader Char (List Char)
  | [] => none
  | c :: cs => if c = delimiter then readDelimited delimiter cs else none

theorem readBetween_eq_some_iff {delimiter : Char} {text cs rest : List Char} :
    readBetween delimiter cs = some (text, rest) ↔
      cs = delimitedChars delimiter text ++ rest ∧ rest.head? ≠ some delimiter := by
  constructor
  · intro read
    cases cs with
    | nil => cases read
    | cons c cs =>
        rw [readBetween] at read
        split at read
        case isTrue opens =>
          refine ⟨?_, head?_of_readDelimited read⟩
          rw [opens, eq_of_readDelimited read]
          simp [delimitedChars]
        case isFalse => cases read
  · rintro ⟨rfl, ends⟩
    rw [delimitedChars, List.cons_append, List.cons_append, List.append_assoc, readBetween,
      if_pos rfl]
    exact readDelimited_doubled text ends

theorem toList_sqlString (text : String) :
    (sqlString text).toList = delimitedChars '\'' text.toList := by
  rw [sqlString, String.toList_ofList]

/--
A text is read from between two delimiters exactly where it was written between them and no
delimiter follows, whatever delimiters it has itself.  So are the texts of literals, and the names
that a dialect with delimited identifiers writes.
-/
theorem delimited_texts_read_back (text : String) (cs rest : List Char) :
    (∀ delimiter, readBetween delimiter cs = some (text.toList, rest) ↔
      cs = (delimited (String.singleton delimiter) text).toList ++ rest ∧
        rest.head? ≠ some delimiter) ∧
    (readBetween '\'' cs = some (text.toList, rest) ↔
      cs = (sqlString text).toList ++ rest ∧ rest.head? ≠ some '\'') ∧
    ∀ indent, readBetween '"' cs = some (text.toList, rest) ↔
      cs = ((Sql.Style.mk Sql.Dialect.sqlite.quote? indent).identifier text).toList ++ rest ∧
        rest.head? ≠ some '"' := by
  have between (delimiter : Char) : readBetween delimiter cs = some (text.toList, rest) ↔
      cs = (delimited (String.singleton delimiter) text).toList ++ rest ∧
        rest.head? ≠ some delimiter := by
    rw [toList_delimited]
    exact readBetween_eq_some_iff
  refine ⟨between, ?_, fun indent => between '"'⟩
  rw [toList_sqlString]
  exact readBetween_eq_some_iff

example : readBetween '\'' (sqlString "'it''s'").toList = some ("'it''s'".toList, []) := by
  decide +kernel

/-- A literal is read as a text, whatever follows that could not go on with it. -/
def StandsFor (literal text : String) : Prop :=
  ∀ rest : List Char, rest.head? ≠ some '\'' →
    readString (literal.toList ++ rest) = some (text.toList, rest)

theorem standsFor_sqlString (text : String) : StandsFor (sqlString text) text := by
  intro rest ends
  rw [sqlString, String.toList_ofList, delimitedChars, List.cons_append, List.cons_append,
    List.append_assoc]
  exact readDelimited_doubled text.toList ends

theorem StandsFor.unique {literal text other : String} (first : StandsFor literal text)
    (second : StandsFor literal other) : text = other := by
  have read := first [] (by simp)
  rw [second [] (by simp)] at read
  exact (String.toList_injective (congrArg Prod.fst (Option.some.inj read))).symm

theorem standsFor_sqlString_iff {text other : String} :
    StandsFor (sqlString text) other ↔ text = other :=
  ⟨(standsFor_sqlString text).unique, fun same => same ▸ standsFor_sqlString text⟩

theorem sqlString_injective : Function.Injective sqlString := by
  intro first second same
  exact (standsFor_sqlString first).unique (same ▸ standsFor_sqlString second)

theorem doubled_of_not_mem {delimiter : Char} {cs : List Char} (absent : delimiter ∉ cs) :
    doubled delimiter cs = cs := by
  refine (List.flatMap_congr fun c mem => if_neg ?_).trans (List.flatMap_singleton' cs)
  rintro rfl
  exact absent mem

theorem withLineEnding_sqlString {ending : String} (unquoted : '\'' ∉ ending.toList) (s : String) :
    withLineEnding ending (sqlString s) = sqlString (withLineEnding ending s) := by
  have pointwise (c : Char) :
      ((if c = '\'' then [c, c] else [c]).flatMap
          fun c => if c = '\n' then ending.toList else [c]) =
        doubled '\'' (if c = '\n' then ending.toList else [c]) := by
    by_cases breaks : c = '\n'
    · simp [breaks, doubled_of_not_mem unquoted]
    · by_cases quotes : c = '\'' <;> simp [breaks, quotes, doubled]
  have inside : (doubled '\'' s.toList).flatMap (fun c => if c = '\n' then ending.toList else [c]) =
      doubled '\'' (s.toList.flatMap fun c => if c = '\n' then ending.toList else [c]) := by
    rw [doubled, doubled, List.flatMap_assoc, List.flatMap_assoc]
    exact List.flatMap_congr fun c _ => pointwise c
  rw [← String.toList_inj, toList_withLineEnding, sqlString, sqlString, String.toList_ofList,
    String.toList_ofList, toList_withLineEnding, delimitedChars, delimitedChars, ← inside]
  simp

end SchemaArtifacts.Escape
