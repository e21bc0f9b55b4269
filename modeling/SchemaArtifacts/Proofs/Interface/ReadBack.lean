import SchemaArtifacts.Artifact.Kind
import SchemaArtifacts.Proofs.Artifact.CodeLines
import SchemaArtifacts.Proofs.Naming.TableNames

/-!
# Interfaces read back

A reader of modules of interfaces, line by line.  What a module holds of the tables and fields of a
schema is read back from its text, whatever their names, descriptions and values contain.
-/

namespace SchemaArtifacts.Interface

open Artifact Escape Naming Text

/-- The type of a member: a union of literals or a type with a name. -/
inductive TypeReading
  | union (texts : List String)
  | named (type : String)
  deriving DecidableEq, Repr

structure MemberReading where
  name : String
  optional_ : Bool
  type : TypeReading
  deriving DecidableEq, Repr

structure Reading where
  name : String
  members : List MemberReading
  deriving DecidableEq, Repr

def readType : Reader Char TypeReading
  | '\'' :: cs =>
    (readSeparated " | ".toList readLiteral ('\'' :: cs)).map fun (texts, rest) =>
      (.union texts, rest)
  | cs => some (.named (String.ofList (cs.takeWhile (· != ';'))), cs.dropWhile (· != ';'))

def readMark : List Char → Bool × List Char
  | '?' :: rest => (true, rest)
  | cs => (false, cs)

def readMember? (line : List Char) : Option MemberReading := do
  let (name, rest) ← readKey (← afterPattern? "  ".toList line)
  let (optional_, rest) := readMark rest
  let (type, rest) ← readType (← afterPattern? ": ".toList rest)
  if rest = [';'] then some { name, optional_, type } else none

def readInterface : Reader (List Char) Reading
  | [] => none
  | header :: rest => do
    let name ← readNamed? "export interface " " \x7b" header
    let (members, rest) ← readUntil "\x7d".toList readMember? rest
    return ({ name, members }, rest)

/-- Reads a module by its lines of code, which end at line feeds and nowhere else. -/
def readModule (text : String) : Option (List Reading) := readAll readInterface (codeLines text)

def typeReading (field : Field) : TypeReading :=
  if field.hasEnumValues then .union field.enumValues
  else .named (TypeTarget.typescript.typeName field.type)

def memberReading (field : Field) : MemberReading :=
  { name := field.name
    optional_ := !(field.required || field.primaryKey)
    type := typeReading field }

def reading (table : Table) (name : String) : Reading :=
  { name, members := table.fields.map memberReading }

theorem typeName_eq_cons (type : FieldType) :
    ∃ first others, (TypeTarget.typescript.typeName type).toList = first :: others ∧
      first ≠ '\'' ∧ ';' ∉ first :: others ∧ '\n' ∉ first :: others := by
  cases type <;> exact ⟨_, _, rfl, by decide⟩

theorem readType_memberType (field : Field) :
    readType ((memberType field).toList ++ [';']) = some (typeReading field, [';']) := by
  by_cases closed : field.hasEnumValues = true
  · have values := Field.enumValues_ne_nil closed
    have read := @readSeparated_scriptLiterals " | " (by simp) _ values [';'] rfl
    have union : memberType field = String.intercalate " | " (field.enumValues.map scriptLiteral) :=
      if_pos closed
    obtain ⟨cs, quoted⟩ : ∃ cs, (memberType field).toList ++ [';'] = '\'' :: cs := by
      obtain ⟨value, others, found⟩ := List.exists_cons_of_ne_nil values
      rw [union, found]
      cases others <;>
        simp [String.toList_intercalate, List.intercalate, scriptLiteral, scriptLiteralChars]
    rw [← union, quoted] at read
    rw [quoted, readType, read, typeReading, if_pos closed]
    rfl
  · obtain ⟨first, others, written, noQuote, noEnd, -⟩ := typeName_eq_cons field.type
    have whole : (memberType field).toList = first :: others := by
      rw [memberType, if_neg closed, written]
    have all : ∀ c ∈ first :: others, (c != ';') = true := by
      rintro c mem
      rw [bne_iff_ne]
      rintro rfl
      exact noEnd mem
    have named : String.ofList (first :: others) = TypeTarget.typescript.typeName field.type := by
      rw [← written, String.ofList_toList]
    rw [whole, List.cons_append, readType, ← List.cons_append, List.takeWhile_append_of_pos all,
      List.dropWhile_append_of_pos all, typeReading, if_neg closed]
    · simp [named]
    · exact fun cs same => noQuote (List.cons.inj same).1

def Member.codeLine (entry : Member) : String :=
  "  " ++ entry.key ++ (if entry.optional_ then "?" else "") ++ ": " ++ entry.type ++ ";"

def Member.ending (entry : Member) : List Char :=
  (if entry.optional_ then ['?'] else []) ++ (": ".toList ++ (entry.type.toList ++ [';']))

theorem Member.toList_codeLine (entry : Member) :
    entry.codeLine.toList = "  ".toList ++ (entry.key.toList ++ entry.ending) := by
  cases marked : entry.optional_ <;>
    simp [Member.codeLine, Member.ending, marked, String.toList_append]

theorem Member.readMark_ending (entry : Member) :
    readMark entry.ending = (entry.optional_, ": ".toList ++ (entry.type.toList ++ [';'])) := by
  cases marked : entry.optional_ <;> simp [Member.ending, marked, readMark]

theorem Member.ends_key (entry : Member) :
    ∀ c ∈ entry.ending.head?, continuesIdentifier c = false := by
  cases marked : entry.optional_ <;> simp [Member.ending, marked] <;> rfl

theorem readMember?_codeLine (comments : Bool) {field : Field}
    (trimmed : trim field.name = field.name) :
    readMember? (member comments field).codeLine.toList = some (memberReading field) := by
  have key : readKey ((member comments field).key.toList ++ (member comments field).ending) =
      some (field.name, (member comments field).ending) :=
    readKey_objectKey (trim_eq_self_iff.mp trimmed) (Member.ends_key _)
  have type : readType ((member comments field).type.toList ++ [';']) =
      some (typeReading field, [';']) :=
    readType_memberType field
  have optional_ : (member comments field).optional_ = !(field.required || field.primaryKey) :=
    (Bool.not_or _ _).symm
  rw [Member.toList_codeLine, readMember?, afterPattern?_append]
  simp only [Option.bind_eq_bind, Option.bind_some, key, Member.readMark_ending,
    afterPattern?_append, type, if_true, optional_]
  rfl

/-! ## Code lines of an interface -/

theorem isCode_codeLine (comments : Bool) (field : Field) :
    IsCode (member comments field).codeLine := by
  have code := @IsCode.keyed "  " ";" isRemark_indented field.name
    ((if (member comments field).optional_ then "?" else "") ++ ": " ++ memberType field)
    ⟨';', rfl, rfl⟩
  simpa only [Member.codeLine, member, String.append_assoc] using code

theorem toList_commentLine (text : String) :
    (commentLine text).toList =
      "/** ".toList ++ (guardCommentEnd (singleLineChars text.toList) ++ " */".toList) := by
  simp [commentLine, blockComment, String.toList_append]

theorem isRemark_commentLine (text : String) : isRemark (commentLine text).toList = true := by
  have guarded := afterComment?_guardCommentEnd (singleLineChars text.toList) []
  simp [toList_commentLine, isRemark, afterComment?, guarded]

theorem trimEndChars_commentLine (indent text : String) :
    trimEndChars (indent ++ commentLine text).toList = (indent ++ commentLine text).toList := by
  apply trimEndChars_of_getLast?
  intro c last
  rw [String.toList_append, toList_commentLine, ← List.append_assoc, ← List.append_assoc,
    List.getLast?_append] at last
  obtain rfl : '/' = c := Option.some.inj last
  rfl

theorem codeOf_cons_comment (text : String) (others : List String) :
    codeOf (commentLine text :: others) = codeOf others := by
  have kept := trimEndChars_commentLine "" text
  rw [String.empty_append] at kept
  exact codeOf_cons_remark (by rw [kept, isRemark_commentLine]) others

theorem codeOf_cons_indentedComment (text : String) (others : List String) :
    codeOf (("  " ++ commentLine text) :: others) = codeOf others := by
  apply codeOf_cons_remark
  rw [trimEndChars_commentLine, String.toList_append, isRemark_indented, isRemark_commentLine]

theorem codeOf_memberLines (comments : Bool) (field : Field) :
    codeOf (member comments field).lines = [(member comments field).codeLine.toList] := by
  have line : codeOf [(member comments field).codeLine] =
      [(member comments field).codeLine.toList] :=
    codeOf_cons_code (isCode_codeLine comments field) []
  rw [Member.lines, ← Member.codeLine]
  split
  case isTrue => exact line
  case isFalse => rw [List.singleton_append, codeOf_cons_indentedComment, line]

theorem isCode_header (name : String) : IsCode ("export interface " ++ name ++ " \x7b") :=
  IsCode.append name (fun rest => by simp [isRemark]) ⟨'\x7b', rfl, rfl⟩

theorem codeOf_lines (comments : Bool) (table : Table) (name : String) :
    codeOf (definition comments table name).lines =
      ("export interface " ++ name ++ " \x7b").toList ::
        (table.fields.map (fun field => (member comments field).codeLine.toList) ++
          ["\x7d".toList]) := by
  have members : codeOf ((definition comments table name).members.flatMap Member.lines) =
      table.fields.map fun field => (member comments field).codeLine.toList := by
    rw [definition, List.flatMap_map, codeOf_flatMap]
    simp only [codeOf_memberLines, ← List.map_eq_flatMap]
  have opening : codeOf ([""] ++
      (if (definition comments table name).description = "" then []
        else [commentLine (definition comments table name).description])) = [] := by
    split
    · rfl
    · rw [codeOf_append, codeOf_cons_comment]
      rfl
  have closing : codeOf ["\x7d"] = ["\x7d".toList] := rfl
  rw [Definition.lines, codeOf_append, codeOf_append, codeOf_append, opening, members,
    codeOf_cons_code (isCode_header _), closing]
  simp only [codeOf_nil, List.nil_append, List.cons_append]
  rfl

theorem readInterface_lines (comments : Bool) {table : Table} {name : String}
    (readable : table.IsReadableAs name) (rest : List (List Char)) :
    readInterface (codeOf (definition comments table name).lines ++ rest) =
      some (reading table name, rest) := by
  have members := @readUntil_map _ _ _ _ "\x7d".toList readMember?
    (fun field => (member comments field).codeLine.toList) memberReading table.fields rfl
    (fun field mem => readMember?_codeLine comments (readable.fields field mem)) rest
  rw [codeOf_lines, List.cons_append, List.append_assoc, readInterface,
    readNamed?_append readable.plain (by simp; rfl)]
  simp only [Option.bind_eq_bind, Option.bind_some, List.singleton_append, members]
  rfl

theorem isUnbroken_commentLine (text : String) : IsUnbroken (commentLine text) :=
  (IsUnbroken.append (by decide) (isUnbroken_blockComment text)).append (by decide)

theorem isUnbroken_memberType (field : Field) : IsUnbroken (memberType field) := by
  rw [memberType]
  split
  case isTrue => exact isUnbroken_scriptLiterals (by decide) _
  case isFalse =>
    obtain ⟨first, others, written, -, -, unbroken⟩ := typeName_eq_cons field.type
    rwa [IsUnbroken, written]

theorem isUnbroken_memberLines (comments : Bool) {field : Field}
    (trimmed : trim field.name = field.name) :
    ∀ line ∈ (member comments field).lines, IsUnbroken line := by
  intro line mem
  simp only [Member.lines, List.mem_append, List.mem_ite_nil_left, List.mem_singleton] at mem
  rcases mem with ⟨-, rfl⟩ | rfl
  · exact .append (by decide) (isUnbroken_commentLine _)
  · have key := isUnbroken_objectKey (trim_eq_self_iff.mp trimmed)
    have mark : IsUnbroken (if (member comments field).optional_ then "?" else "") := by
      split <;> decide
    exact ((((IsUnbroken.append (by decide) key).append mark).append (by decide)).append
      (isUnbroken_memberType field)).append (by decide)

theorem isUnbroken_lines (comments : Bool) {table : Table} {name : String}
    (readable : table.IsReadableAs name) :
    ∀ line ∈ (definition comments table name).lines, IsUnbroken line := by
  intro line mem
  simp only [Definition.lines, List.mem_append, List.mem_ite_nil_left, List.mem_singleton] at mem
  rcases mem with (((rfl | ⟨-, rfl⟩) | rfl) | inside) | rfl
  · decide
  · exact isUnbroken_commentLine _
  · exact (IsUnbroken.append (by decide) readable.plain.isUnbroken).append (by decide)
  · obtain ⟨entry, found, mem⟩ := List.mem_flatMap.mp inside
    obtain ⟨field, held, rfl⟩ := List.mem_map.mp found
    exact isUnbroken_memberLines comments (readable.fields field held) line mem
  · decide

theorem isUnbroken_title (title : String) :
    IsUnbroken ("// Generated TypeScript types" ++
      (if title = "" then "" else " for " ++ singleLine title)) := by
  refine .append (by decide) ?_
  split
  · decide
  · exact .append (by decide) (isUnbroken_singleLine title)

theorem isUnbroken_moduleLines (comments : Bool) (title : String)
    {entries : List (Table × String)} (readable : ∀ entry ∈ entries, entry.1.IsReadableAs entry.2) :
    ∀ line ∈ moduleLines title (entries.map fun entry => definition comments entry.1 entry.2),
      IsUnbroken line := by
  intro line mem
  rcases List.mem_cons.mp mem with rfl | inside
  · exact isUnbroken_title title
  · obtain ⟨_, found, mem⟩ := List.mem_flatMap.mp inside
    obtain ⟨entry, held, rfl⟩ := List.mem_map.mp found
    exact isUnbroken_lines comments (readable entry held) line mem

/-! ## Modules -/

theorem codeOf_moduleLines (title : String) (entries : List Definition) :
    codeOf (moduleLines title entries) = entries.flatMap fun entry => codeOf entry.lines := by
  rw [moduleLines, codeOf_cons_remark, codeOf_flatMap]
  rw [show "// Generated TypeScript types" = "//" ++ " Generated TypeScript types" from rfl,
    String.append_assoc]
  exact isRemark_lineComment _

theorem readModule_entries (comments : Bool) (title : String) {entries : List (Table × String)}
    (readable : ∀ entry ∈ entries, entry.1.IsReadableAs entry.2) :
    readModule (tidied (Collection.endedLines (moduleLines title
        (entries.map fun entry => definition comments entry.1 entry.2)))) =
      some (entries.map fun entry => reading entry.1 entry.2) := by
  have reads : ∀ entry ∈ entries, ∀ rest,
      readInterface (codeOf (definition comments entry.1 entry.2).lines ++ rest) =
        some (reading entry.1 entry.2, rest) :=
    fun entry mem rest => readInterface_lines comments (readable entry mem) rest
  have nonempty : ∀ entry ∈ entries, codeOf (definition comments entry.1 entry.2).lines ≠ [] := by
    intro entry _
    rw [codeOf_lines]
    exact List.cons_ne_nil _ _
  rw [readModule, codeLines_tidied (isUnbroken_moduleLines comments title readable),
    codeOf_moduleLines, List.flatMap_map, readAll_flatMap reads nonempty]

def names (schema : Schema) : List String := schema.scriptNames .pascal

theorem definitions_eq (comments : Bool) (tables : List Table) (register : Register) :
    definitions comments tables register =
      (tables.zip (register.issueAll
        (tables.map fun table => { name := table.name, style := .pascal }))).map
          fun (table, name) => definition comments table name := by
  induction tables generalizing register with
  | nil => rfl
  | cons table rest ih =>
      simp only [definitions, ih, List.map_cons, Register.issueAll, List.zip_cons_cons]

theorem moduleText_schema (comments : Bool) (schema : Schema) :
    moduleText comments (.schema schema) =
      Collection.endedLines (moduleLines schema.name
        ((schema.tables.zip (names schema)).map fun entry =>
          definition comments entry.1 entry.2)) := by
  rw [names, Schema.scriptNames, ← definitions_eq]
  rfl

/--
The interfaces of a schema are generated from all of its tables in order, under names that differ
and are no reserved words, and each has one member for each field in order, of the field's name and
type and optional just when the field may be left out.
-/
theorem interfaces_read_back {settings : Settings} (ended : settings.lineEnding = .str "\n")
    {schema : Schema} (distinct : schema.HasDistinctNames) (trimmed : schema.HasTrimmedNames) :
    (names schema).length = schema.tables.length ∧ (names schema).Nodup ∧
      (∀ name ∈ names schema, lower name ∉ Register.scriptWords) ∧
      ∃ generator content, Kind.typescript.generator settings {} = .ok generator ∧
        generator.artifact (.schema schema) =
          .ok (.made content (targetWarnings (.schema schema))
            (generator.details (.schema schema))) ∧
        readModule content =
          some ((schema.tables.zip (names schema)).map fun (table, name) => reading table name) := by
  have noKebab : CaseStyle.pascal ≠ .kebab := by decide
  obtain ⟨nodup, offers⟩ := distinct.scriptNames_nodup noKebab
  refine ⟨schema.length_scriptNames _, nodup, ?_, _,
    tidied (moduleText (showsComments settings) (.schema schema)), rfl,
    Generator.artifact_of_lineFeed ended rfl, ?_⟩
  · exact fun name mem => (offers name mem).not_mem_scriptWords
  · rw [moduleText_schema]
    exact readModule_entries _ _ (trimmed.isReadableAs distinct noKebab)

def quotedSchema : Schema where
  name := "quoted\n*/"
  tables :=
    [{ name := "class"
       description := "/* not\nthe */ end"
       fields :=
        [{ name := "it's", primaryKey := true, description := "*/ hidden?: string;" },
         { name := "a: b;\n  c", type := .enum, enumValues := ["'", "x' | 'y", "\\\r\n"] }] },
     { name := "Class", fields := [{ name := "id", type := .json, required := true }] }]

theorem interfaces_read_back_quotedSchema :
    quotedSchema.HasDistinctNames ∧ quotedSchema.HasTrimmedNames ∧
      ∃ settings : Settings, settings.lineEnding = .str "\n" ∧
      ∃ generator content, Kind.typescript.generator settings {} = .ok generator ∧
        generator.artifact (.schema quotedSchema) =
          .ok (.made content (targetWarnings (.schema quotedSchema))
            (generator.details (.schema quotedSchema))) ∧
        readModule content =
          some
            [⟨"Class_",
              [⟨"it's", false, .named "string"⟩,
               ⟨"a: b;\n  c", true, .union ["'", "x' | 'y", "\\\r\n"]⟩]⟩,
             ⟨"Class_1", [⟨"id", false, .named "Record<string, unknown>"⟩]⟩] := by
  have distinct : quotedSchema.HasDistinctNames := by decide
  have trimmed : quotedSchema.HasTrimmedNames := by decide
  have named : names quotedSchema = ["Class_", "Class_1"] := by decide +kernel
  refine ⟨distinct, trimmed, { lineEnding := .str "\n" }, rfl, ?_⟩
  obtain ⟨-, -, -, made⟩ := @interfaces_read_back { lineEnding := .str "\n" } rfl _ distinct trimmed
  rw [named] at made
  exact made

end SchemaArtifacts.Interface
