import SchemaArtifacts.Proofs.Text.Reading
import SchemaArtifacts.Proofs.Text.Trimming
import SchemaArtifacts.Schema.ForeignKey

/-!
# The grammar of foreign keys

A text is read as a key exactly if it is one of the three written forms of that key, with blanks
where the forms take them.  The form can be told from the text: only the first holds parentheses,
and of the others only the second holds a point.  So a key is read back from its parenthesised form,
and from its dotted form exactly if its column holds no point.
-/

namespace SchemaArtifacts.ForeignKey

open Text

/-- Both names are there and hold only characters that a written form can hold. -/
structure IsWritable (key : ForeignKey) : Prop where
  table_ne : key.table ≠ ""
  table_chars : ∀ c ∈ key.table.toList, isTableChar c = true
  column_ne : key.column ≠ ""
  column_chars : ∀ c ∈ key.column.toList, isColumnChar c = true

theorem isWritable_iff {key : ForeignKey} :
    key.IsWritable ↔ key.table ≠ "" ∧ key.table.toList.all isTableChar = true ∧
      key.column ≠ "" ∧ key.column.toList.all isColumnChar = true := by
  rw [List.all_eq_true, List.all_eq_true]
  constructor
  · rintro ⟨table_ne, table_chars, column_ne, column_chars⟩
    exact ⟨table_ne, table_chars, column_ne, column_chars⟩
  · rintro ⟨table_ne, table_chars, column_ne, column_chars⟩
    exact ⟨table_ne, table_chars, column_ne, column_chars⟩

instance (key : ForeignKey) : Decidable key.IsWritable := decidable_of_iff _ isWritable_iff.symm

theorem isColumnChar_of_isTableChar {c : Char} (table : isTableChar c = true) :
    isColumnChar c = true := by
  simp only [isTableChar, isColumnChar, Bool.and_eq_true] at table ⊢
  exact table.1

theorem isBlank_of_isColumnChar {c : Char} (column : isColumnChar c = true) :
    isBlank c = false := by
  simp only [isColumnChar, Bool.and_eq_true, Bool.not_eq_true'] at column
  exact column.1.1

theorem isWritable_ofList {table column : List Char} (table_ne : table ≠ [])
    (table_chars : ∀ c ∈ table, isTableChar c = true) (column_ne : column ≠ [])
    (column_chars : ∀ c ∈ column, isColumnChar c = true) :
    IsWritable ⟨String.ofList table, String.ofList column⟩ := by
  constructor
  case table_ne => simpa [← String.toList_inj] using table_ne
  case table_chars => simpa using table_chars
  case column_ne => simpa [← String.toList_inj] using column_ne
  case column_chars => simpa using column_chars

inductive Form
  | called
  | dotted
  | bare
  deriving DecidableEq, Repr

def IsBlankRun (cs : List Char) : Prop := ∀ c ∈ cs, isBlank c = true

/-- The texts that a key is written as in a form, from its first name to its end. -/
inductive IsForm (key : ForeignKey) : Form → List Char → Prop
  | called {gap inner last : List Char} (blank : IsBlankRun gap) (blank' : IsBlankRun inner)
      (blank'' : IsBlankRun last) :
      IsForm key .called
        (key.table.toList ++ (gap ++ '(' :: (inner ++ key.column.toList ++ (last ++ [')']))))
  | dotted (pointless : '.' ∉ key.column.toList) :
      IsForm key .dotted (key.table.toList ++ '.' :: key.column.toList)
  | bare (column : key.column = "id") : IsForm key .bare key.table.toList

structure IsWritten (key : ForeignKey) (form : Form) (s : String) : Prop where
  writable : key.IsWritable
  between : ∃ before cs after, IsBlankRun before ∧ key.IsForm form cs ∧ IsBlankRun after ∧
    s.toList = before ++ cs ++ after

variable {key : ForeignKey} {form : Form} {cs : List Char} {s : String}

def formOf (cs : List Char) : Form :=
  if '(' ∈ cs then .called else if '.' ∈ cs then .dotted else .bare

section Characters

variable (writable : key.IsWritable)
include writable

theorem not_mem_table {c : Char} (stops : isTableChar c = false) : c ∉ key.table.toList :=
  fun mem => absurd (writable.table_chars c mem) (by simp [stops])

theorem not_mem_column {c : Char} (stops : isColumnChar c = false) : c ∉ key.column.toList :=
  fun mem => absurd (writable.column_chars c mem) (by simp [stops])

theorem formOf_dotted : formOf (key.table.toList ++ '.' :: key.column.toList) = .dotted := by
  simp [formOf, not_mem_table writable (c := '(') (by decide),
    not_mem_column writable (c := '(') (by decide)]

theorem IsForm.formOf_eq (written : key.IsForm form cs) : formOf cs = form := by
  cases written with
  | called => simp [formOf]
  | dotted => exact formOf_dotted writable
  | bare =>
      simp [formOf, not_mem_table writable (c := '(') (by decide),
        not_mem_table writable (c := '.') (by decide)]

end Characters

theorem formOf_between {before after : List Char} (blank : IsBlankRun before)
    (blank' : IsBlankRun after) : formOf (before ++ cs ++ after) = formOf cs := by
  have visible {run : List Char} (blank : IsBlankRun run) {c : Char} (shown : isBlank c = false) :
      c ∉ run := fun mem => absurd (blank c mem) (by simp [shown])
  have parenthesis : isBlank '(' = false := by decide
  have point : isBlank '.' = false := by decide
  simp [formOf, visible blank parenthesis, visible blank' parenthesis, visible blank point,
    visible blank' point]

theorem IsWritten.formOf_eq (written : key.IsWritten form s) : formOf s.toList = form := by
  obtain ⟨writable, before, cs, after, blank, shaped, blank', chars⟩ := written
  rw [chars, formOf_between blank blank', shaped.formOf_eq writable]

section Reading

variable {name rest : List Char}

theorem trimStartChars_append (blank : IsBlankRun name)
    (ends : ∀ c ∈ rest.head?, isBlank c = false) :
    trimStartChars (name ++ rest) = rest := (span_append blank ends).2

theorem trimStartChars_cons {c : Char} (visible : isBlank c = false) (cs : List Char) :
    trimStartChars (c :: cs) = c :: cs :=
  List.dropWhile_cons_of_neg (by simp [visible])

end Reading

theorem not_isColumnChar_of_isBlank {c : Char} (blank : isBlank c = true) :
    isColumnChar c = false := by
  simp [isColumnChar, blank]

theorem not_isTableChar_of_isBlank {c : Char} (blank : isBlank c = true) :
    isTableChar c = false := by
  simp [isTableChar, blank]

theorem head?_blanks_append {p : Char → Bool} (stops : ∀ c, isBlank c = true → p c = false)
    {blanks : List Char} (blank : IsBlankRun blanks) {c : Char} (stop : p c = false)
    (rest : List Char) : ∀ d ∈ (blanks ++ c :: rest).head?, p d = false := by
  intro d mem
  cases blanks with
  | nil =>
      obtain rfl := Option.mem_some_iff.mp mem
      exact stop
  | cons first others =>
      obtain rfl := Option.mem_some_iff.mp mem
      exact stops _ (blank _ List.mem_cons_self)

theorem calledColumn?_of_blanks {inner column last : List Char} (blank : IsBlankRun inner)
    (kept : column ≠ []) (all : ∀ c ∈ column, isColumnChar c = true) (blank' : IsBlankRun last) :
    calledColumn? (inner ++ column ++ (last ++ [')'])) = some column := by
  have starts : ∀ c ∈ (column ++ (last ++ [')'])).head?, isBlank c = false := by
    obtain ⟨first, others, rfl⟩ := List.exists_cons_of_ne_nil kept
    intro c mem
    obtain rfl := Option.mem_some_iff.mp mem
    exact isBlank_of_isColumnChar (all first List.mem_cons_self)
  have body := trimStartChars_append blank starts
  obtain ⟨took, dropped⟩ := span_append all
    (head?_blanks_append (fun c => not_isColumnChar_of_isBlank) blank' (c := ')') (by decide) [])
  have ends : ∀ c ∈ [')'].head?, isBlank c = false := by
    intro c mem
    obtain rfl := Option.mem_some_iff.mp mem
    decide
  have closed : trimStartChars (last ++ [')']) = [')'] := trimStartChars_append blank' ends
  rw [calledColumn?, List.append_assoc, body, took, dropped, closed]
  simp [kept]

theorem isTableChar_of_isColumnChar {c : Char} (column : isColumnChar c = true)
    (pointless : c ≠ '.') : isTableChar c = true := by
  simp only [isColumnChar, isTableChar, Bool.and_eq_true, bne_iff_ne] at column ⊢
  exact ⟨column, pointless⟩

theorem IsForm.ofTrimmed?_eq (writable : key.IsWritable) (written : key.IsForm form cs) :
    ofTrimmed? cs = some key := by
  have table : key.table.toList ≠ [] := by simpa using writable.table_ne
  have column : key.column.toList ≠ [] := by simpa using writable.column_ne
  cases written with
  | @called gap inner last blank blank' blank'' =>
      have called := calledColumn?_of_blanks blank' column writable.column_chars blank''
      obtain ⟨took, dropped⟩ := span_append writable.table_chars
        (head?_blanks_append (fun c => not_isTableChar_of_isBlank) blank (c := '(') (by decide)
          (inner ++ key.column.toList ++ (last ++ [')'])))
      have opening :
          trimStartChars (gap ++ '(' :: (inner ++ key.column.toList ++ (last ++ [')']))) =
            '(' :: (inner ++ key.column.toList ++ (last ++ [')'])) :=
        trimStartChars_append blank (by simp; decide)
      simp only [ofTrimmed?, took, dropped, opening, called]
      simp [table]
  | dotted pointless =>
      have point : ∀ c ∈ ('.' :: key.column.toList).head?, isTableChar c = false := by
        simp; decide
      obtain ⟨took, dropped⟩ := span_append writable.table_chars point
      have stays := trimStartChars_cons (c := '.') (by decide) key.column.toList
      have all : ∀ c ∈ key.column.toList, isTableChar c = true := by
        intro c mem
        have noPoint : c ≠ '.' := ne_of_mem_of_not_mem mem pointless
        exact isTableChar_of_isColumnChar (writable.column_chars c mem) noPoint
      rw [ofTrimmed?, took, dropped, stays]
      simpa [table, column] using all
  | bare named =>
      have took := List.takeWhile_eq_self_iff.mpr writable.table_chars
      have dropped := List.dropWhile_eq_nil_iff.mpr writable.table_chars
      rw [ofTrimmed?, took, dropped]
      simp [table, trimStartChars, defaultColumn, ← named]

theorem IsForm.isTrimmed (writable : key.IsWritable) (written : key.IsForm form cs) :
    IsTrimmed cs := by
  have visible : ∀ c ∈ key.table.toList, isBlank c = false := fun c mem =>
    isBlank_of_isColumnChar (isColumnChar_of_isTableChar (writable.table_chars c mem))
  have visible' : ∀ c ∈ key.column.toList, isBlank c = false := fun c mem =>
    isBlank_of_isColumnChar (writable.column_chars c mem)
  have filled : key.table.toList ≠ [] := by simpa using writable.table_ne
  have starts (rest : List Char) : ∀ c ∈ (key.table.toList ++ rest).head?, isBlank c = false := by
    intro c first
    rw [List.head?_append_of_ne_nil _ filled] at first
    exact visible c (List.mem_of_mem_head? first)
  cases written with
  | @called gap inner last =>
      refine ⟨starts _, ?_⟩
      intro c mem
      simp only [← List.cons_append, ← List.append_assoc, List.getLast?_concat] at mem
      obtain rfl := Option.mem_some_iff.mp mem
      decide
  | dotted =>
      refine isTrimmed_of_not_isBlank ?_
      rw [List.forall_mem_append, List.forall_mem_cons]
      exact ⟨visible, by decide, visible'⟩
  | bare => exact isTrimmed_of_not_isBlank visible

theorem IsWritten.ofText?_eq (written : key.IsWritten form s) : ofText? s = some key := by
  obtain ⟨writable, before, cs, after, blank, shaped, blank', chars⟩ := written
  rw [ofText?, chars, trimChars_between blank (shaped.isTrimmed writable) blank',
    shaped.ofTrimmed?_eq writable]

/-! ## What is read -/

theorem takeWhile_append_trimStartChars (cs : List Char) :
    cs.takeWhile isBlank ++ trimStartChars cs = cs := List.takeWhile_append_dropWhile

theorem exists_of_calledColumn? {cs column : List Char} (read : calledColumn? cs = some column) :
    column ≠ [] ∧ (∀ c ∈ column, isColumnChar c = true) ∧
      ∃ inner last, IsBlankRun inner ∧ IsBlankRun last ∧
        cs = inner ++ column ++ (last ++ [')']) := by
  simp only [calledColumn?] at read
  split at read
  · cases read
  rename_i kept
  split at read
  case isTrue closed =>
    cases read
    refine ⟨by simpa using kept, List.all_eq_true.mp List.all_takeWhile, cs.takeWhile isBlank,
      ((trimStartChars cs).dropWhile isColumnChar).takeWhile isBlank,
      List.all_eq_true.mp List.all_takeWhile, List.all_eq_true.mp List.all_takeWhile, ?_⟩
    rw [← closed, takeWhile_append_trimStartChars, List.append_assoc,
      List.takeWhile_append_dropWhile, takeWhile_append_trimStartChars]
  case isFalse => cases read

theorem exists_isForm_of_ofTrimmed? (read : ofTrimmed? cs = some key) :
    key.IsWritable ∧
      ∃ form start after, key.IsForm form start ∧ IsBlankRun after ∧ cs = start ++ after := by
  have whole : cs.takeWhile isTableChar ++ cs.dropWhile isTableChar = cs :=
    List.takeWhile_append_dropWhile
  have nothing : IsBlankRun [] := List.forall_mem_nil _
  have table_chars : ∀ c ∈ cs.takeWhile isTableChar, isTableChar c = true :=
    List.all_eq_true.mp List.all_takeWhile
  simp only [ofTrimmed?] at read
  split at read
  · cases read
  rename_i kept
  have table_ne : cs.takeWhile isTableChar ≠ [] := by simpa using kept
  split at read
  case h_1 ending =>
    cases read
    have blank : IsBlankRun (cs.dropWhile isTableChar) := List.dropWhile_eq_nil_iff.mp ending
    have column : defaultColumn = String.ofList ['i', 'd'] := by decide
    refine ⟨?_, .bare, _, cs.dropWhile isTableChar, .bare rfl, blank, ?_⟩
    · rw [column]
      exact isWritable_ofList table_ne table_chars (by simp) (List.all_eq_true.mp (by decide))
    · rw [String.toList_ofList, whole]
  case h_2 body opening =>
    obtain ⟨column, called, rfl⟩ := Option.map_eq_some_iff.mp read
    obtain ⟨column_ne, column_chars, inner, last, blank, blank', rfl⟩ :=
      exists_of_calledColumn? called
    have gap : IsBlankRun ((cs.dropWhile isTableChar).takeWhile isBlank) :=
      List.all_eq_true.mp List.all_takeWhile
    refine ⟨isWritable_ofList table_ne table_chars column_ne column_chars, .called, _, [],
      .called gap blank blank', nothing, ?_⟩
    rw [List.append_nil, String.toList_ofList, String.toList_ofList, ← opening,
      takeWhile_append_trimStartChars, whole]
  case h_3 column pointed _ _ =>
    split at read
    case isTrue dotted =>
      cases read
      simp only [Bool.and_eq_true, Bool.not_eq_true', List.isEmpty_eq_false_iff,
        List.all_eq_true] at dotted
      obtain ⟨column_ne, all⟩ := dotted
      have column_chars : ∀ c ∈ column, isColumnChar c = true := fun c mem =>
        isColumnChar_of_isTableChar (all c mem)
      have pointless : '.' ∉ column := fun mem => absurd (all '.' mem) (by decide)
      refine ⟨isWritable_ofList table_ne table_chars column_ne column_chars, .dotted, _, [],
        .dotted (by simpa using pointless), nothing, ?_⟩
      rw [List.append_nil, String.toList_ofList, String.toList_ofList, ← pointed, whole]
    case isFalse => cases read
  case h_4 => cases read

theorem isWritable_of_ofText? (read : ofText? s = some key) : key.IsWritable :=
  (exists_isForm_of_ofTrimmed? read).1

theorem ofText?_eq_some_iff : ofText? s = some key ↔ ∃ form, key.IsWritten form s := by
  constructor
  · intro read
    obtain ⟨before, rest, blank, blank', chars⟩ := exists_between_blanks s.toList
    obtain ⟨writable, form, start, after, shaped, blank'', trimmed⟩ :=
      exists_isForm_of_ofTrimmed? read
    have ended : IsBlankRun (after ++ rest) := List.forall_mem_append.mpr ⟨blank'', blank'⟩
    refine ⟨form, writable, before, start, after ++ rest, blank, shaped, ended, ?_⟩
    rw [chars, trimmed]
    simp only [List.append_assoc]
  · rintro ⟨form, written⟩
    exact written.ofText?_eq

theorem IsForm.isWritten (writable : key.IsWritable) (shaped : key.IsForm form s.toList) :
    key.IsWritten form s := by
  have nothing : IsBlankRun [] := List.forall_mem_nil _
  exact ⟨writable, [], s.toList, [], nothing, shaped, nothing, by simp⟩

theorem IsWritable.ofText?_call (writable : key.IsWritable) : ofText? key.call = some key := by
  have nothing : IsBlankRun [] := List.forall_mem_nil _
  have shaped : key.IsForm .called key.call.toList := by
    have written := @IsForm.called key [] [] [] nothing nothing nothing
    simpa [call] using written
  exact (shaped.isWritten writable).ofText?_eq

theorem ofText?_call_iff : ofText? key.call = some key ↔ key.IsWritable := by
  constructor
  · exact isWritable_of_ofText?
  · exact IsWritable.ofText?_call

example : ofText? (call ⟨"public.users", "id"⟩) = none := by decide

theorem ofText?_dotted_iff (writable : key.IsWritable) :
    ofText? key.dotted = some key ↔ '.' ∉ key.column.toList := by
  have chars : key.dotted.toList = key.table.toList ++ '.' :: key.column.toList := by simp [dotted]
  constructor
  · intro read
    obtain ⟨form, written⟩ := ofText?_eq_some_iff.mp read
    obtain rfl : Form.dotted = form := by
      rw [← written.formOf_eq, chars, formOf_dotted writable]
    obtain ⟨-, before, cs, after, -, shaped, -⟩ := written
    cases shaped with
    | dotted pointless => exact pointless
  · intro pointless
    have shaped : key.IsForm .dotted key.dotted.toList := chars ▸ .dotted pointless
    exact (shaped.isWritten writable).ofText?_eq

/--
A text is read as a key exactly if it is one of the three forms of the key between blanks, and it is
not two of them, whichever the keys.  A key of names that the forms can hold is read back from its
parenthesised form, and from its dotted form exactly if its column holds no point.
-/
theorem written_forms_iff (s : String) (key : ForeignKey) :
    (ofText? s = some key ↔ ∃ form, key.IsWritten form s) ∧
      (∀ (other : ForeignKey) form form', key.IsWritten form s → other.IsWritten form' s →
        form = form') ∧
      (key.IsWritable → ofText? key.call = some key ∧
        (ofText? key.dotted = some key ↔ '.' ∉ key.column.toList)) := by
  refine ⟨ofText?_eq_some_iff, fun other form form' written written' => ?_, fun writable => ?_⟩
  · rw [← written.formOf_eq, ← written'.formOf_eq]
  · exact ⟨writable.ofText?_call, ofText?_dotted_iff writable⟩

/-- A column with a point, which only the parenthesised form takes. -/
theorem written_forms_iff_publicId :
    IsWritten ⟨"users", "public.id"⟩ .called " users ( public.id )\n" ∧
      (∀ (other : ForeignKey) form, other.IsWritten form " users ( public.id )\n" →
        form = .called) ∧
      IsWritable ⟨"users", "public.id"⟩ ∧
      ofText? (call ⟨"users", "public.id"⟩) = some ⟨"users", "public.id"⟩ ∧
      ofText? (dotted ⟨"users", "public.id"⟩) ≠ some ⟨"users", "public.id"⟩ := by
  obtain ⟨reads, apart, renders⟩ :=
    written_forms_iff " users ( public.id )\n" ⟨"users", "public.id"⟩
  have writable : IsWritable ⟨"users", "public.id"⟩ := by decide
  obtain ⟨form, written⟩ := reads.mp (by decide)
  obtain rfl : Form.called = form := by
    rw [← written.formOf_eq]
    decide
  obtain ⟨called, dotted⟩ := renders writable
  exact ⟨written, fun other form shaped => (apart other .called form written shaped).symm, writable,
    called, mt dotted.mp (by decide)⟩

end SchemaArtifacts.ForeignKey
