import SchemaArtifacts.Proofs.Prisma.Literals
import SchemaArtifacts.Proofs.Prisma.Members

/-!
# Defaults of closed sets

The default of a field with a closed set of values is a member of the field's enum.  Members are
cleaned from the values themselves, but a default is cleaned after its quotes and backslashes were
written after backslashes.  Where these stand in the middle of a value, the default is no member.
-/

namespace SchemaArtifacts.Prisma

open Escape Naming Text

def escaped (text : String) : String := String.ofList (text.toList.flatMap escapeText)

/-- No quotes and no backslashes between the first and the last letter or digit. -/
def HasBareStem (text : String) : Prop := ∀ c ∈ stem text.toList, c ≠ '"' ∧ c ≠ '\\'

instance (text : String) : Decidable (HasBareStem text) := List.decidableBAll _ _

theorem dropWhile_flatMap {p : Char → Bool} {write : Char → List Char}
    (dropped : ∀ c, p c = true → ∀ d ∈ write c, p d = true)
    (kept : ∀ c, p c = false → write c = [c]) (cs : List Char) :
    (cs.flatMap write).dropWhile p = (cs.dropWhile p).flatMap write := by
  induction cs with
  | nil => rfl
  | cons c cs ih =>
      cases drops : p c with
      | true =>
          rw [List.flatMap_cons, List.dropWhile_append_of_pos (dropped c drops), ih,
            List.dropWhile_cons_of_pos drops]
      | false => simp [kept c drops, drops]

theorem dropEnds_flatMap {p : Char → Bool} {write : Char → List Char}
    (dropped : ∀ c, p c = true → ∀ d ∈ write c, p d = true)
    (kept : ∀ c, p c = false → write c = [c]) (cs : List Char) :
    dropEnds p (cs.flatMap write) = (dropEnds p cs).flatMap write := by
  have dropped' : ∀ c, p c = true → ∀ d ∈ (List.reverse ∘ write) c, p d = true :=
    fun c drops d mem => dropped c drops d (List.mem_reverse.mp mem)
  have kept' : ∀ c, p c = false → (List.reverse ∘ write) c = [c] := by
    intro c keeps
    rw [Function.comp_apply, kept c keeps, List.reverse_singleton]
  rw [dropEnds, dropWhile_flatMap dropped kept, List.reverse_flatMap,
    dropWhile_flatMap dropped' kept', List.reverse_flatMap, dropEnds]
  refine List.flatMap_congr fun c _ => ?_
  rw [Function.comp_apply, Function.comp_apply, List.reverse_reverse]

theorem escapeText_of_isSign {c : Char} (sign : isSign c = true) : escapeText c = [c] := by
  rcases escapeText_eq c with ⟨-, rfl | rfl⟩ | ⟨written, -⟩
  · exact absurd sign (by decide)
  · exact absurd sign (by decide)
  · exact written

theorem isSign_of_mem_escapeText {c d : Char} (other : isSign c = false) (mem : d ∈ escapeText c) :
    isSign d = false := by
  have slash : isSign '\\' = false := by decide
  rcases escapeText_eq c with ⟨written, -⟩ | ⟨written, -⟩
  · rw [written] at mem
    simp only [List.mem_cons, List.not_mem_nil, or_false] at mem
    rcases mem with rfl | rfl
    · exact slash
    · exact other
  · rw [written, List.mem_singleton] at mem
    exact mem ▸ other

theorem stem_escaped (text : String) :
    stem (escaped text).toList = (stem text.toList).flatMap escapeText := by
  rw [escaped, String.toList_ofList]
  apply dropEnds_flatMap
  · intro c other d mem
    simp only [Bool.not_eq_true'] at other ⊢
    exact isSign_of_mem_escapeText other mem
  · intro c sign
    exact escapeText_of_isSign (by simpa using sign)

theorem namedStem_escaped (text : String) :
    namedStem (escaped text) = (namedStem text).flatMap escapeText := by
  rw [namedStem, namedStem, stem_escaped]
  by_cases empty : stem text.toList = []
  · rw [empty]
    decide
  · have kept : (stem text.toList).flatMap escapeText ≠ [] := by
      obtain ⟨c, rest, starts⟩ := List.exists_cons_of_ne_nil empty
      rcases escapeText_eq c with ⟨written, -⟩ | ⟨written, -⟩ <;> simp [starts, written]
    rw [if_neg empty, if_neg kept]

theorem length_flatMap_escapeText (cs : List Char) :
    (cs.flatMap escapeText).length = cs.length + cs.countP fun c => c = '"' ∨ c = '\\' := by
  induction cs with
  | nil => rfl
  | cons c cs ih =>
      rw [List.flatMap_cons, List.length_append, ih]
      rcases escapeText_eq c with ⟨written, escapes⟩ | ⟨written, noQuote, noSlash⟩
      · simp [written, escapes.symm]
        omega
      · simp [written, noQuote, noSlash]
        omega

theorem forall₂_looksAlike_flatMap_iff {cs : List Char} :
    List.Forall₂ LooksAlike (cs.flatMap escapeText) cs ↔ ∀ c ∈ cs, c ≠ '"' ∧ c ≠ '\\' := by
  constructor
  · intro alike
    have lengths := alike.length_eq
    rw [length_flatMap_escapeText, Nat.add_eq_left, List.countP_eq_zero] at lengths
    intro c mem
    simpa using lengths c mem
  · intro bare
    have same : cs.flatMap escapeText = cs := by
      refine (List.flatMap_congr fun c mem => ?_).trans (List.flatMap_singleton' cs)
      obtain ⟨noQuote, noSlash⟩ := bare c mem
      rw [escapeText, if_neg noSlash, escapeQuote, if_neg noQuote]
    rw [same]
    exact List.forall₂_same.mpr fun c _ => .inl rfl

theorem cleanPlain_escaped_iff {text : String} :
    cleanPlain (escaped text) = cleanPlain text ↔ HasBareStem text := by
  rw [cleanPlain_eq_iff, StemsAgree, namedStem_escaped, forall₂_looksAlike_flatMap_iff,
    HasBareStem, namedStem]
  split
  case isTrue empty =>
    have named : ∀ c ∈ "field".toList, c ≠ '"' ∧ c ≠ '\\' := by simp
    rw [empty]
    exact iff_of_true named (List.forall_mem_nil _)
  case isFalse => exact Iff.rfl

def firstDefault? (line : List Char) : Option String :=
  (line.splitOn ' ').findSome? (readNamed? "@default(" ")")

def Entry.default? (entry : Entry) : Option String := firstDefault? entry.line.toList

def IsOtherWord (word : String) : Prop :=
  ' ' ∉ word.toList ∧ readNamed? "@default(" ")" word.toList = none

instance (word : String) : Decidable (IsOtherWord word) := inferInstanceAs (Decidable (_ ∧ _))

theorem isOtherWord_of_head {word : String} (single : ' ' ∉ word.toList)
    (other : word.toList.head? ≠ some '@') : IsOtherWord word := by
  refine ⟨single, ?_⟩
  have missing : afterPattern? "@default(".toList word.toList = none := by
    rw [Option.eq_none_iff_forall_ne_some]
    intro rest found
    rw [afterPattern?_eq_some_iff] at found
    exact other (by rw [found]; rfl)
  rw [readNamed?, missing]
  rfl

theorem isOtherWord_append {name : String} (plain : IsPlain name.toList) {ending : String}
    (ends : ending = "" ∨ ending = "?") : IsOtherWord (name ++ ending) := by
  have spaceless : ' ' ∉ name.toList := fun mem => absurd (plain _ mem) (by decide)
  have unmarked : name.toList.head? ≠ some '@' := fun first =>
    absurd (plain _ (List.mem_of_mem_head? first)) (by decide)
  rcases ends with rfl | rfl
  · rw [String.append_empty]
    exact isOtherWord_of_head spaceless unmarked
  · apply isOtherWord_of_head
    · simp [spaceless]
    · cases chars : name.toList <;> simp_all

theorem firstDefault?_intercalate {words parts : List String}
    (others : ∀ word ∈ words, IsOtherWord word) (nonempty : parts ≠ []) (tail : List Char) :
    firstDefault? ((String.intercalate " " (words ++ parts)).toList ++ tail) =
      firstDefault? ((String.intercalate " " parts).toList ++ tail) := by
  induction words with
  | nil => rfl
  | cons word words ih =>
      obtain ⟨single, other⟩ := others word List.mem_cons_self
      have later := ih fun next mem => others next (List.mem_cons_of_mem word mem)
      rw [List.cons_append, String.intercalate_cons_of_ne_nil (by simp [nonempty]), ← later]
      simp only [String.toList_append, List.append_assoc]
      rw [show " ".toList = [' '] from rfl, List.singleton_append, firstDefault?,
        List.splitOn_append_cons_self, List.splitOn_eq_singleton single, List.singleton_append,
        List.findSome?_cons, other]
      rfl

theorem firstDefault?_append {member : String} (plain : IsPlain member.toList) {rest : List Char}
    (apart : ∀ c ∈ rest.head?, c = ' ') :
    firstDefault? (("@default(" ++ member ++ ")").toList ++ rest) = some member := by
  have read : readNamed? "@default(" ")" ("@default(" ++ member ++ ")").toList = some member :=
    readNamed?_append plain (by simp; rfl)
  have single : ' ' ∉ ("@default(" ++ member ++ ")").toList := by
    have spaceless : ' ' ∉ member.toList := fun mem => absurd (plain _ mem) (by decide)
    simp [spaceless]
  cases rest with
  | nil =>
      rw [List.append_nil, firstDefault?, List.splitOn_eq_singleton single, List.findSome?_cons,
        read]
  | cons c rest =>
      obtain rfl := apart c rfl
      rw [firstDefault?, List.splitOn_append_cons_self, List.splitOn_eq_singleton single,
        List.singleton_append, List.findSome?_cons, read]

theorem exists_intercalate_eq (part : String) (more : List String) {tail : List Char}
    (apart : ∀ c ∈ tail.head?, c = ' ') :
    ∃ rest, (∀ c ∈ rest.head?, c = ' ') ∧
      (String.intercalate " " (part :: more)).toList ++ tail = part.toList ++ rest := by
  cases more with
  | nil => exact ⟨tail, apart, by rw [String.intercalate_singleton]⟩
  | cons next others =>
      refine ⟨' ' :: ((String.intercalate " " (next :: others)).toList ++ tail), by simp, ?_⟩
      rw [String.intercalate_cons_cons]
      simp

theorem isOtherWord_of_mem_keyAttributes {field : Field} {word : String}
    (mem : word ∈ keyAttributes field) : IsOtherWord word := by
  unfold keyAttributes at mem
  split at mem
  · obtain rfl := List.mem_singleton.mp mem
    decide
  · split at mem
    · obtain rfl := List.mem_singleton.mp mem
      decide
    · cases mem

theorem firstDefault?_fieldLine {field : Field} {type member : String}
    (typed : IsPlain type.toList) (given : fieldDefault? field = some member)
    (plain : IsPlain member.toList) :
    firstDefault? (fieldLine field type).toList = some member := by
  have parts : fieldParts field type =
      ([cleanPlain field.name, type ++ (if isOptional field then "?" else "")] ++
        keyAttributes field) ++
        ("@default(" ++ member ++ ")") ::
          (if cleanPlain field.name = field.name then [] else [mapAttribute field.name]) := by
    simp [fieldParts, given]
  have others : ∀ word ∈ [cleanPlain field.name, type ++ (if isOptional field then "?" else "")] ++
      keyAttributes field, IsOtherWord word := by
    intro word mem
    simp only [List.cons_append, List.nil_append, List.mem_cons] at mem
    rcases mem with rfl | rfl | mem
    · have named := isOtherWord_append (isPlain_cleanPlain field.name) (.inl rfl)
      rwa [String.append_empty] at named
    · apply isOtherWord_append typed
      split
      · exact .inr rfl
      · exact .inl rfl
    · exact isOtherWord_of_mem_keyAttributes mem
  have apart : ∀ c ∈ (referenceText field).toList.head?, c = ' ' := by
    cases key : field.foreignKey <;> simp [referenceText, key]
  obtain ⟨rest, apart', written⟩ := exists_intercalate_eq ("@default(" ++ member ++ ")")
    (if cleanPlain field.name = field.name then [] else [mapAttribute field.name]) apart
  have line : (fieldLine field type).toList =
      (String.intercalate " " (fieldParts field type)).toList ++ (referenceText field).toList :=
    String.toList_append
  rw [line, parts, firstDefault?_intercalate others (List.cons_ne_nil _ _), written,
    firstDefault?_append plain apart']

theorem fieldDefault?_of_literal {field : Field} {value cast : String}
    (closed : field.hasEnumValues = true) (casts : IsCast cast)
    (given : field.sqlDefault = some (sqlString value ++ cast)) :
    fieldDefault? field = some (cleanPlain (escaped value)) := by
  have nonempty := sqlString_append_ne_empty value cast
  rw [fieldDefault?, given, Option.filter_some, if_pos (by simpa using nonempty)]
  simp only [Option.map_some, ofSql_sqlString value casts, closed, if_true]
  rfl

/-! ## Enums of fields -/

/-- The fields of tables that need enums, with their entries in the tables' models. -/
def closedEntries (tables : List Table) (models : List Model) : List (Field × Entry) :=
  ((tables.zip models).flatMap fun (table, model) => table.fields.zip model.entries).filter
    (·.1.hasEnumValues)

/-- A field's line has the type of its enum, and the enum the cleaned values of the field. -/
structure IsClosedBy (closed : Field × Entry) (enum : Enum) : Prop where
  hasValues : closed.1.hasEnumValues = true
  line : closed.2.line = fieldLine closed.1 enum.name
  values : enum.values = closed.1.enumValues.map cleanPlain

theorem isClosedBy_fieldEntries (comments : Bool) (model : String) (fields : List Field)
    (register : Register) :
    List.Forall₂ IsClosedBy
      ((fields.zip (fieldEntries comments model fields register).1).filter (·.1.hasEnumValues))
      (fieldEntries comments model fields register).2.1 := by
  induction fields generalizing register with
  | nil => exact .nil
  | cons field rest ih =>
      rw [fieldEntries]
      split
      case isTrue closed =>
        rw [List.zip_cons_cons, List.filter_cons, if_pos closed]
        exact .cons ⟨closed, rfl, rfl⟩ (ih _)
      case isFalse open_ =>
        rw [List.zip_cons_cons, List.filter_cons, if_neg open_]
        exact ih _

theorem isClosedBy_models (comments : Bool) (tables : List Table) (register : Register) :
    List.Forall₂ IsClosedBy (closedEntries tables (models comments tables register).1)
      (models comments tables register).2 := by
  induction tables generalizing register with
  | nil => exact .nil
  | cons table rest ih =>
      have split : models comments (table :: rest) register =
          ((tableModel comments table register).1 ::
              (models comments rest (tableModel comments table register).2.2).1,
            (tableModel comments table register).2.1 ++
              (models comments rest (tableModel comments table register).2.2).2) := rfl
      rw [split, closedEntries, List.zip_cons_cons, List.flatMap_cons, List.filter_append]
      exact List.rel_append (isClosedBy_fieldEntries ..) (ih _)

theorem Names.isPlain {comments : Bool} {tables : List Table} {name identifier : String}
    (named : Names (fileRegister comments tables) name identifier) : IsPlain identifier.toList := by
  have usual : ∀ request ∈ (askedNames tables (fileModels comments tables)).map nameRequest,
      request.IsUsual := by
    intro request mem
    obtain ⟨name, -, rfl⟩ := List.mem_map.mp mem
    exact ⟨by simp [nameRequest], rfl⟩
  have offers := Register.offers_of_mem_issueAll Register.hasPlainWords_forModels usual
  exact (offers identifier named.mem_issueAll).plain

theorem isPlain_enumName {comments : Bool} {tables : List Table} {enum : Enum}
    (mem : enum ∈ fileEnums comments tables) : IsPlain enum.name.toList := by
  have named := (models_names comments tables Register.forModels).2.flip
  have plain := (List.forall₂_and_left _ _).mp
    (named.imp fun identifier base held => ⟨Names.isPlain held, held⟩)
  exact plain.1 enum.name (List.mem_map_of_mem mem)

/--
Where the default of a field with a closed set is a literal of one of its values, the field's line
has a default, and this is the member that stands for the value in the field's enum exactly if the
value has no quotes and no backslashes between its first and its last letter or digit.
-/
theorem enum_defaults_of_models (comments : Bool) (tables : List Table) :
    List.Forall₂
      (fun (closed : Field × Entry) (enum : Enum) =>
        closed.2.line = fieldLine closed.1 enum.name ∧
          ∀ value cast, IsCast cast → closed.1.sqlDefault = some (sqlString value ++ cast) →
            ∀ i : Nat, closed.1.enumValues[i]? = some value →
              ∃ shown member, closed.2.default? = some shown ∧ enum.values[i]? = some member ∧
                (shown = member ↔ HasBareStem value))
      (closedEntries tables (fileModels comments tables)) (fileEnums comments tables) := by
  have closedBy := isClosedBy_models comments tables Register.forModels
  have typed : ∀ enum ∈ fileEnums comments tables, IsPlain enum.name.toList :=
    fun _ mem => isPlain_enumName mem
  have both := (List.forall₂_and_left _ _).mpr ⟨typed, closedBy.flip⟩
  refine both.flip.imp fun closed enum ⟨typed, closedBy⟩ => ⟨closedBy.line, ?_⟩
  intro value cast casts given i listed
  have stated := fieldDefault?_of_literal closedBy.hasValues casts given
  refine ⟨cleanPlain (escaped value), cleanPlain value, ?_, ?_, cleanPlain_escaped_iff⟩
  · rw [Entry.default?, closedBy.line]
    exact firstDefault?_fieldLine typed stated (isPlain_cleanPlain _)
  · rw [closedBy.values, List.getElem?_map, listed]
    rfl

def pipeTable : Table where
  name := "pipes"
  fields :=
    [{ name := "size", type := .enum, enumValues := ["2\" pipe", "hose"],
       sqlDefault := some (sqlString "2\" pipe") },
     { name := "kind", type := .enum, enumValues := ["in stock"],
       sqlDefault := some (sqlString "in stock" ++ "::kind") }]

/-- The default of the second field, which has a cast behind it, is the first member of its enum. -/
theorem enum_defaults_of_models_pipeTable :
    ∃ closed enum,
      (closedEntries [pipeTable] (fileModels true [pipeTable]))[1]? = some closed ∧
        (fileEnums true [pipeTable])[1]? = some enum ∧ IsCast "::kind" ∧
        closed.1.sqlDefault = some (sqlString "in stock" ++ "::kind") ∧
        closed.1.enumValues[0]? = some "in stock" ∧ HasBareStem "in stock" ∧
        ∃ member, closed.2.default? = some member ∧ enum.values[0]? = some member := by
  have inEntries :
      1 < (closedEntries [pipeTable] (fileModels true [pipeTable])).length := by decide +kernel
  have inEnums : 1 < (fileEnums true [pipeTable]).length := by decide +kernel
  have given : (closedEntries [pipeTable] (fileModels true [pipeTable]))[1].1.sqlDefault =
      some (sqlString "in stock" ++ "::kind") := by decide +kernel +revert
  have listed : (closedEntries [pipeTable] (fileModels true [pipeTable]))[1].1.enumValues[0]? =
      some "in stock" := by decide +kernel +revert
  have casts : IsCast "::kind" := by decide
  have bare : HasBareStem "in stock" := by decide
  have pairs := (List.forall₂_iff_get.mp (enum_defaults_of_models true [pipeTable])).2
  obtain ⟨shown, member, stated, emitted, same⟩ :=
    (pairs 1 inEntries inEnums).2 "in stock" "::kind" casts given 0 listed
  refine ⟨_, _, List.getElem?_eq_getElem inEntries, List.getElem?_eq_getElem inEnums, casts,
    given, listed, bare, member, ?_, emitted⟩
  rw [← same.mpr bare]
  exact stated

/-- The default of the first field is no member of its enum. -/
theorem enum_default_of_pipeTable :
    (closedEntries [pipeTable] (fileModels true [pipeTable])).map (·.2.line) =
        ["size PipesSize? @default(_2___pipe)", "kind PipesKind? @default(in_stock)"] ∧
      (closedEntries [pipeTable] (fileModels true [pipeTable])).map (·.2.default?) =
        [some "_2___pipe", some "in_stock"] ∧
      (fileEnums true [pipeTable]).map (·.values) = [["_2__pipe", "hose"], ["in_stock"]] := by
  decide +kernel

end SchemaArtifacts.Prisma
