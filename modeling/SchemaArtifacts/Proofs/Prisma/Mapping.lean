import SchemaArtifacts.Proofs.Escape.Line
import SchemaArtifacts.Proofs.Prisma.Members
import SchemaArtifacts.Proofs.Text.Reading

/-!
# Names that are mapped back

A field or a model that is not called like its column or table maps back to that name, which stands
between quotes as it is.  A reader of literals finds the name there exactly if it has no quotes, no
backslashes and no line breaks.
-/

namespace SchemaArtifacts.Prisma

open Escape Naming Text

/-- The text after an opening quote, up to the closing one; a backslash stands before a quote or a
backslash of the text. -/
def readQuotedText : Reader Char (List Char)
  | [] => none
  | '"' :: rest => some ([], rest)
  | '\\' :: c :: rest =>
    if c = '\\' || c = '"' then
      (readQuotedText rest).map fun (text, rest) => (c :: text, rest)
    else none
  | c :: rest =>
    if c = '\\' then none
    else (readQuotedText rest).map fun (text, rest) => (c :: text, rest)

def IsBare (name : String) : Prop :=
  ∀ c ∈ name.toList, c ≠ '"' ∧ c ≠ '\\' ∧ isLineBreak c = false

instance (name : String) : Decidable (IsBare name) := List.decidableBAll _ name.toList

theorem readQuotedText_cons {c : Char} (noQuote : c ≠ '"') (noSlash : c ≠ '\\') (rest : List Char) :
    readQuotedText (c :: rest) =
      (readQuotedText rest).map fun (text, rest) => (c :: text, rest) := by
  rw [readQuotedText]
  · rw [if_neg noSlash]
  · exact noQuote
  · exact fun _ _ same => absurd same noSlash

theorem readQuotedText_append {cs : List Char} (bare : ∀ c ∈ cs, c ≠ '"' ∧ c ≠ '\\')
    (rest : List Char) : readQuotedText (cs ++ '"' :: rest) = some (cs, rest) := by
  induction cs with
  | nil => rfl
  | cons c cs ih =>
      obtain ⟨noQuote, noSlash⟩ := bare c List.mem_cons_self
      rw [List.cons_append, readQuotedText_cons noQuote noSlash,
        ih fun d mem => bare d (List.mem_cons_of_mem c mem)]
      rfl

def leadingSlashes (cs : List Char) : Nat := (cs.takeWhile (· == '\\')).length

theorem leadingSlashes_le {cs text rest : List Char}
    (read : readQuotedText cs = some (text, rest)) :
    2 * leadingSlashes text ≤ leadingSlashes cs := by
  fun_induction readQuotedText cs generalizing text rest with
  | case1 => cases read
  | case2 rest =>
      cases read
      exact Nat.zero_le _
  | case3 c rest escape ih =>
      obtain ⟨⟨inner, _⟩, taken, same⟩ := Option.map_eq_some_iff.mp read
      cases same
      have less := ih taken
      by_cases slash : c = '\\'
      · subst slash
        simp [leadingSlashes] at less ⊢
        omega
      · simp [leadingSlashes, slash]
  | case4 => cases read
  | case5 => cases read
  | case6 c rest noQuote noEscape noSlash ih =>
      obtain ⟨⟨inner, _⟩, taken, same⟩ := Option.map_eq_some_iff.mp read
      cases same
      simp [leadingSlashes, noSlash]

theorem leadingSlashes_append_quote (cs rest : List Char) :
    leadingSlashes (cs ++ '"' :: rest) = leadingSlashes cs := by
  induction cs with
  | nil => rfl
  | cons c cs ih =>
      by_cases slash : c = '\\'
      · simpa [leadingSlashes, slash] using ih
      · simp [leadingSlashes, slash]

theorem bare_of_readQuotedText {cs rest left : List Char}
    (read : readQuotedText (cs ++ '"' :: rest) = some (cs, left)) :
    ∀ c ∈ cs, c ≠ '"' ∧ c ≠ '\\' := by
  induction cs with
  | nil => exact fun c mem => absurd mem List.not_mem_nil
  | cons c cs ih =>
      by_cases quote : c = '"'
      · subst quote
        cases read
      by_cases slash : c = '\\'
      · subst slash
        have twice := leadingSlashes_le read
        rw [leadingSlashes_append_quote] at twice
        simp only [leadingSlashes, List.takeWhile_cons, BEq.rfl, if_true, List.length_cons] at twice
        omega
      · rw [List.cons_append, readQuotedText_cons quote slash] at read
        obtain ⟨⟨inner, _⟩, taken, same⟩ := Option.map_eq_some_iff.mp read
        cases same
        exact List.forall_mem_cons.mpr ⟨⟨quote, slash⟩, ih taken⟩

def readMapping (start : String) : Reader Char String := fun cs => do
  let cs ← afterPattern? (start ++ "(\"").toList cs
  let (text, rest) ← readQuotedText cs
  let rest ← afterPattern? [')'] rest
  if text.any isLineBreak then none else some (String.ofList text, rest)

def mappingTo (start name : String) : String := start ++ "(\"" ++ name ++ "\")"

theorem toList_mappingTo_append (start name : String) (rest : List Char) :
    (mappingTo start name).toList ++ rest =
      (start ++ "(\"").toList ++ (name.toList ++ '"' :: ')' :: rest) := by
  simp [mappingTo]

theorem readMapping_mappingTo_iff {start name : String} {rest : List Char} :
    (readMapping start ((mappingTo start name).toList ++ rest)).map Prod.fst = some name ↔
      IsBare name := by
  rw [readMapping, toList_mappingTo_append, afterPattern?_append]
  simp only [Option.bind_eq_bind, Option.bind_some]
  constructor
  · intro read
    obtain ⟨⟨_, _⟩, read, rfl⟩ := Option.map_eq_some_iff.mp read
    obtain ⟨⟨text, _⟩, taken, read⟩ := Option.bind_eq_some_iff.mp read
    obtain ⟨_, -, read⟩ := Option.bind_eq_some_iff.mp read
    split at read
    case isTrue => cases read
    case isFalse unbroken =>
      cases read
      rw [String.toList_ofList] at taken
      have bare := bare_of_readQuotedText taken
      intro c mem
      rw [String.toList_ofList] at mem
      refine ⟨(bare c mem).1, (bare c mem).2, Bool.eq_false_iff.mpr fun breaks => unbroken ?_⟩
      exact List.any_eq_true.mpr ⟨c, mem, breaks⟩
  · intro bare
    rw [readQuotedText_append fun c mem => ⟨(bare c mem).1, (bare c mem).2.1⟩]
    have unbroken : name.toList.any isLineBreak = false :=
      List.any_eq_false.mpr fun c mem => Bool.eq_false_iff.mp (bare c mem).2.2
    simp only [Option.bind_some, afterPattern?, unbroken]
    simp

theorem readMapping_eq_none {start : String} {cs : List Char}
    (other : ¬ start.toList <+: cs) : readMapping start cs = none := by
  have missing : afterPattern? (start ++ "(\"").toList cs = none := by
    rw [Option.eq_none_iff_forall_ne_some]
    intro rest found
    refine other ⟨"(\"".toList ++ rest, ?_⟩
    rw [afterPattern?_eq_some_iff.mp found, String.toList_append, List.append_assoc]
  rw [readMapping, missing]
  rfl

def leadParts (field : Field) (type : String) : List String :=
  [cleanPlain field.name, type ++ (if isOptional field then "?" else "")] ++ keyAttributes field ++
    (fieldDefault? field).toList.map (fun value => "@default(" ++ value ++ ")")

def leadText (field : Field) (type : String) : String :=
  String.intercalate " " (leadParts field type) ++ " "

theorem fieldLine_of_renamed {field : Field} (renamed : cleanPlain field.name ≠ field.name)
    (type : String) :
    fieldLine field type =
      leadText field type ++ mappingTo "@map" field.name ++ referenceText field := by
  have parts : fieldParts field type = leadParts field type ++ [mapAttribute field.name] := by
    simp only [fieldParts, leadParts, if_neg renamed]
  have mapped : mapAttribute field.name = mappingTo "@map" field.name := by
    simp [mapAttribute, mappingTo, String.append_assoc]
  rw [fieldLine, parts, String.intercalate_append_of_ne_nil (by simp [leadParts]) (by simp),
    String.intercalate_singleton, mapped, leadText, referenceText]

/-- The name that a line maps to, where the attribute stands after a text. -/
def Entry.mapping? (entry : Entry) (lead : String) : Option String := do
  let cs ← afterPattern? lead.toList entry.line.toList
  (readMapping "@map" cs).map Prod.fst

theorem Entry.mapping?_iff {entry : Entry} {field : Field} {type : String}
    (line : entry.line = fieldLine field type) (renamed : cleanPlain field.name ≠ field.name) :
    entry.mapping? (leadText field type) = some field.name ↔ IsBare field.name := by
  rw [Entry.mapping?, line, fieldLine_of_renamed renamed, String.toList_append,
    String.toList_append, List.append_assoc, afterPattern?_append]
  exact readMapping_mappingTo_iff

def tableMapping? (line : String) : Option String :=
  (readMapping "  @@map" line.toList).map Prod.fst

def Model.mapping? (model : Model) : Option String := model.lines.findSome? tableMapping?

theorem tableMapping?_eq_none {line : String} (other : ¬ "  @@map".toList <+: line.toList) :
    tableMapping? line = none := by
  rw [tableMapping?, readMapping_eq_none other]
  rfl

theorem tableMapping?_fieldLine (field : Field) (type : String) :
    tableMapping? ("  " ++ fieldLine field type) = none := by
  refine tableMapping?_eq_none ?_
  rw [fieldLine_eq_name_append]
  cases cleaned : (cleanPlain field.name).toList with
  | nil => simp [cleaned]
  | cons c rest =>
      have plain : isNameChar c = true :=
        isPlain_cleanPlain field.name c (cleaned ▸ List.mem_cons_self)
      have other : '@' ≠ c := by
        rintro rfl
        exact absurd plain (by decide)
      simp [cleaned, other]

theorem findSome?_entryLines {entry : Entry} {field : Field} {type : String}
    (line : entry.line = fieldLine field type) : entry.lines.findSome? tableMapping? = none := by
  have named := tableMapping?_fieldLine field type
  have noted (note : String) : tableMapping? ("  /// " ++ note) = none :=
    tableMapping?_eq_none (by simp)
  unfold Entry.lines
  split
  case isTrue => simp [line, named]
  case isFalse => simp [line, named, noted]

theorem findSome?_entries {fields : List Field} {entries : List Entry}
    (lines : List.Forall₂ (fun field entry => ∃ type, entry.line = fieldLine field type)
      fields entries) :
    (entries.flatMap Entry.lines).findSome? tableMapping? = none := by
  induction lines with
  | nil => rfl
  | cons first _ ih =>
      obtain ⟨type, line⟩ := first
      rw [List.flatMap_cons, List.findSome?_append, findSome?_entryLines line, ih]
      rfl

theorem Model.mapping?_eq {table : Table} {model : Model} (modelled : IsModelledBy table model) :
    model.mapping? =
      if model.mapped = "" then none else tableMapping? (mappingTo "  @@map" model.mapped) := by
  have blank : tableMapping? "" = none := tableMapping?_eq_none (by simp)
  have described : tableMapping? ("/// " ++ singleLine model.description) = none :=
    tableMapping?_eq_none (by simp)
  have opened : tableMapping? ("model " ++ model.name ++ " \x7b") = none :=
    tableMapping?_eq_none (by simp)
  have closed : tableMapping? "\x7d" = none := tableMapping?_eq_none (by simp)
  have last (line : String) : [line, "\x7d"].findSome? tableMapping? = tableMapping? line := by
    cases mapped : tableMapping? line <;> simp [mapped, closed]
  have entries := findSome?_entries modelled.lines
  simp only [Model.mapping?, Model.lines]
  by_cases undescribed : model.description = "" <;> by_cases kept : model.mapped = "" <;>
    simp [undescribed, kept, blank, described, opened, closed, last, entries, mappingTo]

theorem Model.mapping?_iff {table : Table} {model : Model} (modelled : IsModelledBy table model) :
    model.mapping? = some table.name ↔
      model.name ≠ table.name ∧ table.name ≠ "" ∧ IsBare table.name := by
  rw [Model.mapping?_eq modelled, modelled.mapped]
  by_cases same : model.name = table.name
  · simp [same]
  by_cases nameless : table.name = ""
  · simp [nameless]
  have read := @readMapping_mappingTo_iff "  @@map" table.name []
  rw [List.append_nil] at read
  rw [if_neg same, if_neg nameless, tableMapping?, read]
  exact ⟨fun bare => ⟨same, nameless, bare⟩, fun ⟨_, _, bare⟩ => bare⟩

/--
The line of a renamed field maps to the name of the column exactly if the name has no quotes, no
backslashes and no line breaks; and a model maps to the name of its table exactly if the name is
another one, not empty and has none of these.
-/
theorem mappings_of_models (comments : Bool) (tables : List Table) :
    List.Forall₂
      (fun table (model : Model) =>
        List.Forall₂
          (fun field (entry : Entry) => ∃ type,
            entry.line = fieldLine field type ∧
              (cleanPlain field.name ≠ field.name →
                fieldLine field type =
                    leadText field type ++ mappingTo "@map" field.name ++ referenceText field ∧
                  (entry.mapping? (leadText field type) = some field.name ↔ IsBare field.name)))
          table.fields model.entries ∧
        (model.mapping? = some table.name ↔
          model.name ≠ table.name ∧ table.name ≠ "" ∧ IsBare table.name))
      tables (fileModels comments tables) := by
  refine (isModelledBy_models comments tables Register.forModels).imp fun table model modelled => ?_
  refine ⟨modelled.lines.imp fun field entry ⟨type, line⟩ => ⟨type, line, fun renamed => ?_⟩,
    Model.mapping?_iff modelled⟩
  exact ⟨fieldLine_of_renamed renamed type, Entry.mapping?_iff line renamed⟩

def quotedTable : Table where
  name := "say \"hi\""
  fields := [{ name := "a\"b" }]

/-- Neither name is read back. -/
theorem mappings_of_quotedTable :
    (fileModels true [quotedTable]).map (fun model => model.entries.map (·.line)) =
        [["a_b String? @map(\"a\"b\")"]] ∧
      (fileModels true [quotedTable]).map
          (fun model => model.entries.map (·.mapping? "a_b String? ")) = [[none]] ∧
      (fileModels true [quotedTable]).map (·.mapping?) = [none] := by
  decide +kernel

end SchemaArtifacts.Prisma
