import SchemaArtifacts.Artifact.Kind
import SchemaArtifacts.Proofs.Artifact.CodeLines
import SchemaArtifacts.Proofs.Naming.TableNames

/-!
# Content collections read back

A reader of modules of content collections, line by line.  What a module holds of the tables and
fields of a schema is read back from its text, and each table's name leads to the variable that is
bound to that table's collection.
-/

namespace SchemaArtifacts.Collection

open Artifact Escape Naming Text

/-- The expression of a member, without the mark for optional members. -/
inductive ExpressionReading
  | oneOf (texts : List String)
  | token (text : String)
  deriving DecidableEq, Repr

structure MemberReading where
  name : String
  expression : ExpressionReading
  optional_ : Bool
  deriving DecidableEq, Repr

/-- A collection bound to a variable, or the collections that are exported, each under its key. -/
inductive SectionReading
  | collection (variable_ : String) (members : List MemberReading)
  | exports (entries : List (String × String))
  deriving DecidableEq, Repr

def readToken : List Char → List Char × List Char
  | [] => ([], [])
  | c :: rest =>
    if c = ',' || ".optional(),".toList.isPrefixOf (c :: rest) then ([], c :: rest)
    else (c :: (readToken rest).1, (readToken rest).2)

def readExpression : Reader Char ExpressionReading := fun cs =>
  match afterPattern? "z.enum([".toList cs with
  | some rest => do
    let (texts, rest) ← readSeparated ", ".toList readLiteral rest
    return (.oneOf texts, ← afterPattern? "])".toList rest)
  | none => some (.token (String.ofList (readToken cs).1), (readToken cs).2)

def readEnding? (cs : List Char) : Option Bool :=
  if cs = ".optional(),".toList then some true
  else if cs = ",".toList then some false
  else none

def readMember? (line : List Char) : Option MemberReading := do
  let (name, rest) ← readKey (← afterPattern? "    ".toList line)
  let (expression, rest) ← readExpression (← afterPattern? ": ".toList rest)
  return { name, expression, optional_ := ← readEnding? rest }

def readCollection : Reader (List Char) SectionReading
  | [] => none
  | header :: rest => do
    let variable_ ← readNamed? "const " " = defineCollection(\x7b" header
    let rest ← afterLine? "  type: 'content'," rest
    let rest ← afterLine? "  schema: z.object(\x7b" rest
    let (members, rest) ← readUntil "  \x7d),".toList readMember? rest
    return (.collection variable_ members, ← afterLine? "\x7d);" rest)

def readEntry? (line : List Char) : Option (String × String) := do
  let (key, rest) ← readKey (← afterPattern? "  ".toList line)
  return (key, ← readNamed? ": " "," rest)

def readExports : Reader (List Char) SectionReading := fun lines => do
  let rest ← afterLine? "export const collections = \x7b" lines
  let (entries, rest) ← readUntil "\x7d;".toList readEntry? rest
  return (.exports entries, rest)

def readSection : Reader (List Char) SectionReading := fun lines =>
  (readExports lines).or (readCollection lines)

/-- Reads a module by its lines of code, which end at line feeds and nowhere else. -/
def readModule (text : String) : Option (List SectionReading) := do
  let rest ← afterLine? "import \x7b defineCollection, z \x7d from 'astro:content';" (codeLines text)
  readAll readSection rest

def expressionReading (field : Field) : ExpressionReading :=
  if field.hasEnumValues then .oneOf field.enumValues
  else .token (TypeTarget.validation.typeName field.type)

def memberReading (field : Field) : MemberReading :=
  { name := field.name
    expression := expressionReading field
    optional_ := !field.required }

def collectionReading (table : Table) (variable_ : String) : SectionReading :=
  .collection variable_ (table.fields.map memberReading)

/-- The collections of tables in order, and the exports of all of them at the end. -/
def reading (tables : List Table) (names : List String) : List SectionReading :=
  (tables.zip names).map (fun (table, name) => collectionReading table name) ++
    [.exports ((tables.zip names).map fun (table, name) => (table.name, name))]

def ending (required : Bool) : String := (if required then "" else ".optional()") ++ ","

theorem readEnding?_ending (required : Bool) :
    readEnding? (ending required).toList = some (!required) := by
  cases required <;> rfl

theorem readExpression_typeName (type : FieldType) (required : Bool) :
    readExpression ((TypeTarget.validation.typeName type).toList ++ (ending required).toList) =
      some (.token (TypeTarget.validation.typeName type), (ending required).toList) := by
  cases type <;> cases required <;> rfl

theorem readExpression_enumExpression {values : List String} (nonempty : values ≠ [])
    (rest : List Char) :
    readExpression ((enumExpression values).toList ++ rest) = some (.oneOf values, rest) := by
  have literals := @readSeparated_scriptLiterals ", " (by simp) values nonempty
    ("])".toList ++ rest) rfl
  rw [enumExpression, String.toList_append, String.toList_append, List.append_assoc,
    List.append_assoc, readExpression, afterPattern?_append]
  simp only [Option.bind_eq_bind, literals, Option.bind_some, afterPattern?_append]
  rfl

/-- A member's expression without the mark for optional members. -/
def expression (field : Field) : String :=
  if field.hasEnumValues then enumExpression field.enumValues
  else TypeTarget.validation.typeName field.type

theorem readExpression_expression (field : Field) :
    readExpression ((expression field).toList ++ (ending field.required).toList) =
      some (expressionReading field, (ending field.required).toList) := by
  rw [expression, expressionReading]
  split
  case isTrue closed => exact readExpression_enumExpression (Field.enumValues_ne_nil closed) _
  case isFalse => exact readExpression_typeName _ _

def memberLine (field : Field) : String :=
  "    " ++ objectKey field.name ++ ": " ++ validation field ++ ","

theorem toList_memberLine (field : Field) :
    (memberLine field).toList =
      "    ".toList ++ ((objectKey field.name).toList ++
        (": ".toList ++ ((expression field).toList ++ (ending field.required).toList))) := by
  simp only [memberLine, validation, expression, ending, String.toList_append, List.append_assoc]

theorem readMember?_memberLine {field : Field} (trimmed : trim field.name = field.name) :
    readMember? (memberLine field).toList = some (memberReading field) := by
  have key := @readKey_objectKey field.name (trim_eq_self_iff.mp trimmed)
    (": ".toList ++ ((expression field).toList ++ (ending field.required).toList)) (by simp; rfl)
  rw [toList_memberLine, readMember?, afterPattern?_append]
  simp only [Option.bind_eq_bind, Option.bind_some, key, afterPattern?_append,
    readExpression_expression, readEnding?_ending]
  rfl

/-! ## Exports -/

def entryLine (table : Table) (name : String) : String :=
  "  " ++ objectKey table.name ++ ": " ++ name ++ ","

theorem readEntry?_entryLine {table : Table} (trimmed : trim table.name = table.name)
    {name : String} (plain : IsPlain name.toList) :
    readEntry? (entryLine table name).toList = some (table.name, name) := by
  have key := @readKey_objectKey table.name (trim_eq_self_iff.mp trimmed)
    (": " ++ name ++ ",").toList (by simp; rfl)
  have line : (entryLine table name).toList =
      "  ".toList ++ ((objectKey table.name).toList ++ (": " ++ name ++ ",").toList) := by
    simp only [entryLine, String.toList_append, List.append_assoc]
  have value := @readNamed?_append ": " name "," plain (by simp; rfl)
  rw [line, readEntry?, afterPattern?_append]
  simp only [Option.bind_eq_bind, Option.bind_some, key, value]
  rfl

theorem isPlain_variable {identifier : String} (plain : IsPlain identifier.toList) :
    IsPlain (identifier ++ "Collection").toList := by
  rw [String.toList_append]
  exact plain.append (by decide)

theorem isCode_memberLine (field : Field) : IsCode (memberLine field) := by
  have code := @IsCode.keyed "    " "," (fun _ => rfl) field.name (": " ++ validation field)
    ⟨',', rfl, rfl⟩
  simpa only [memberLine, String.append_assoc] using code

theorem isCode_entryLine (table : Table) (name : String) : IsCode (entryLine table name) := by
  have code := @IsCode.keyed "  " "," isRemark_indented table.name (": " ++ name) ⟨',', rfl, rfl⟩
  simpa only [entryLine, String.append_assoc] using code

theorem isCode_header (name : String) : IsCode ("const " ++ name ++ " = defineCollection(\x7b") :=
  IsCode.append name (fun rest => by simp [isRemark]) ⟨'\x7b', rfl, rfl⟩

theorem isRemark_description (text : String) :
    isRemark (trimEndChars ("// " ++ singleLine text).toList) = true := by
  rw [show "// " = "//" ++ " " from rfl, String.append_assoc]
  exact isRemark_lineComment _

theorem codeOf_lines (comments : Bool) (table : Table) (identifier : String) :
    codeOf (definition comments table identifier).lines =
      ("const " ++ (identifier ++ "Collection") ++ " = defineCollection(\x7b").toList ::
        "  type: 'content',".toList :: "  schema: z.object(\x7b".toList ::
          (table.fields.map (fun field => (memberLine field).toList) ++
            ["  \x7d),".toList, "\x7d);".toList]) := by
  have members : codeOf ((definition comments table identifier).members.map fun member =>
      "    " ++ member.key ++ ": " ++ member.expression ++ ",") =
        table.fields.map fun field => (memberLine field).toList := by
    rw [definition, List.map_map]
    exact codeOf_map fun field _ => isCode_memberLine field
  have opening : codeOf ([""] ++
      (if (definition comments table identifier).description = "" then []
        else ["// " ++ singleLine (definition comments table identifier).description])) = [] := by
    split
    · rfl
    · rw [codeOf_append, codeOf_cons_remark (isRemark_description _)]
      rfl
  have start : codeOf ["  type: 'content',", "  schema: z.object(\x7b"] =
      ["  type: 'content',".toList, "  schema: z.object(\x7b".toList] := rfl
  have closing : codeOf ["  \x7d),", "\x7d);"] = ["  \x7d),".toList, "\x7d);".toList] := rfl
  rw [Definition.lines, codeOf_append, codeOf_append, codeOf_append, opening, members, closing,
    codeOf_cons_code (isCode_header _), start]
  simp only [List.nil_append, List.cons_append]
  rfl

theorem readCollection_lines (comments : Bool) {table : Table} {identifier : String}
    (readable : table.IsReadableAs identifier) (rest : List (List Char)) :
    readCollection (codeOf (definition comments table identifier).lines ++ rest) =
      some (collectionReading table (identifier ++ "Collection"), rest) := by
  have members := @readUntil_map _ _ _ _ "  \x7d),".toList readMember?
    (fun field => (memberLine field).toList) memberReading table.fields rfl
    (fun field mem => readMember?_memberLine (readable.fields field mem))
    ("\x7d);".toList :: rest)
  rw [codeOf_lines, List.cons_append, List.cons_append, List.cons_append, List.append_assoc,
    readCollection, readNamed?_append (isPlain_variable readable.plain) (by simp; rfl)]
  simp only [Option.bind_eq_bind, Option.bind_some, afterLine?_cons, List.cons_append,
    List.nil_append, members]
  rfl

theorem readSection_lines (comments : Bool) {table : Table} {identifier : String}
    (readable : table.IsReadableAs identifier) (rest : List (List Char)) :
    readSection (codeOf (definition comments table identifier).lines ++ rest) =
      some (collectionReading table (identifier ++ "Collection"), rest) := by
  have noExports : readExports (codeOf (definition comments table identifier).lines ++ rest) =
      none := by
    rw [codeOf_lines, List.cons_append, readExports, afterLine?, if_neg]
    · rfl
    · rw [String.toList_append, String.toList_append]
      simp
  rw [readSection, noExports, Option.none_or]
  exact readCollection_lines comments readable rest

def exportLines (entries : List (Table × String)) : List (List Char) :=
  "export const collections = \x7b".toList ::
    (entries.map (fun entry => (entryLine entry.1 (entry.2 ++ "Collection")).toList) ++
      ["\x7d;".toList])

theorem readSection_exportLines {entries : List (Table × String)}
    (readable : ∀ entry ∈ entries, entry.1.IsReadableAs entry.2) :
    readSection (exportLines entries ++ []) =
      some (.exports (entries.map fun entry => (entry.1.name, entry.2 ++ "Collection")), []) := by
  have members := @readUntil_map _ _ _ _ "\x7d;".toList readEntry?
    (fun entry : Table × String => (entryLine entry.1 (entry.2 ++ "Collection")).toList)
    (fun entry => (entry.1.name, entry.2 ++ "Collection")) entries rfl
    (fun entry mem => readEntry?_entryLine (readable entry mem).name
      (isPlain_variable (readable entry mem).plain)) []
  rw [readSection, readExports, List.append_nil, exportLines, afterLine?_cons]
  simp only [Option.bind_eq_bind, Option.bind_some, members]
  rfl

theorem codeOf_title (title : String) :
    codeOf (["// Content collection configuration", "// File: src/content/config.ts"] ++
      (if title = "" then [] else ["// " ++ singleLine title])) = [] := by
  have first : codeOf ["// Content collection configuration", "// File: src/content/config.ts"] =
      [] := rfl
  rw [codeOf_append, first, List.nil_append]
  split
  · rfl
  · rw [codeOf_cons_remark (isRemark_description title), codeOf_nil]

theorem codeOf_moduleLines (comments : Bool) (title : String) (entries : List (Table × String)) :
    codeOf (moduleLines title (entries.map fun entry => definition comments entry.1 entry.2)) =
      "import \x7b defineCollection, z \x7d from 'astro:content';".toList ::
        (entries.flatMap (fun entry => codeOf (definition comments entry.1 entry.2).lines) ++
          exportLines entries) := by
  have imports : codeOf ["", "import \x7b defineCollection, z \x7d from 'astro:content';"] =
      ["import \x7b defineCollection, z \x7d from 'astro:content';".toList] := rfl
  have exports : codeOf ["", "export const collections = \x7b"] =
      ["export const collections = \x7b".toList] := rfl
  have closing : codeOf ["\x7d;"] = ["\x7d;".toList] := rfl
  have written : codeOf ((entries.map fun entry => definition comments entry.1 entry.2).map
      fun entry => "  " ++ entry.key ++ ": " ++ entry.variable_ ++ ",") =
        entries.map fun entry => (entryLine entry.1 (entry.2 ++ "Collection")).toList := by
    rw [List.map_map]
    exact codeOf_map fun entry _ => isCode_entryLine entry.1 (entry.2 ++ "Collection")
  rw [moduleLines, codeOf_append, codeOf_append, codeOf_append, codeOf_append, codeOf_append,
    codeOf_title, imports, exports, closing, written, codeOf_flatMap, List.flatMap_map, exportLines]
  simp only [List.nil_append, List.cons_append, List.append_assoc]

/-! ## Every line is one line -/

theorem isUnbroken_typeName (type : FieldType) :
    IsUnbroken (TypeTarget.validation.typeName type) := by
  cases type <;> decide

theorem isUnbroken_validation (field : Field) : IsUnbroken (validation field) := by
  have mark : IsUnbroken (if field.required then "" else ".optional()") := by
    split <;> decide
  refine .append ?_ mark
  split
  · have literals := @isUnbroken_scriptLiterals ", " (by decide) field.enumValues
    exact (IsUnbroken.append (by decide) literals).append (by decide)
  · exact isUnbroken_typeName field.type

theorem isUnbroken_memberLine {field : Field} (trimmed : trim field.name = field.name) :
    IsUnbroken (memberLine field) := by
  have key := isUnbroken_objectKey (trim_eq_self_iff.mp trimmed)
  exact (((IsUnbroken.append (by decide) key).append (by decide)).append
    (isUnbroken_validation field)).append (by decide)

theorem isUnbroken_entryLine {table : Table} (trimmed : trim table.name = table.name)
    {name : String} (plain : IsPlain name.toList) : IsUnbroken (entryLine table name) := by
  have key := isUnbroken_objectKey (trim_eq_self_iff.mp trimmed)
  exact (((IsUnbroken.append (by decide) key).append (by decide)).append plain.isUnbroken).append
    (by decide)

theorem isUnbroken_description (text : String) : IsUnbroken ("// " ++ singleLine text) :=
  .append (by decide) (isUnbroken_singleLine text)

theorem isUnbroken_lines (comments : Bool) {table : Table} {identifier : String}
    (readable : table.IsReadableAs identifier) :
    ∀ line ∈ (definition comments table identifier).lines, IsUnbroken line := by
  intro line mem
  simp only [Definition.lines, List.mem_append, List.mem_ite_nil_left, List.mem_cons,
    List.not_mem_nil, or_false] at mem
  rcases mem with (((rfl | ⟨-, rfl⟩) | rfl | rfl | rfl) | inside) | rfl | rfl
  · decide
  · exact isUnbroken_description _
  · have variable_ := (isPlain_variable readable.plain).isUnbroken
    exact (IsUnbroken.append (by decide) variable_).append (by decide)
  · decide
  · decide
  · obtain ⟨entry, found, rfl⟩ := List.mem_map.mp inside
    obtain ⟨field, held, rfl⟩ := List.mem_map.mp found
    exact isUnbroken_memberLine (readable.fields field held)
  · decide
  · decide

theorem isUnbroken_moduleLines (comments : Bool) (title : String) {entries : List (Table × String)}
    (readable : ∀ entry ∈ entries, entry.1.IsReadableAs entry.2) :
    ∀ line ∈ moduleLines title (entries.map fun entry => definition comments entry.1 entry.2),
      IsUnbroken line := by
  intro line mem
  simp only [moduleLines, List.mem_append, List.mem_ite_nil_left, List.mem_cons, List.not_mem_nil,
    or_false] at mem
  rcases mem with ((((((rfl | rfl) | ⟨-, rfl⟩) | rfl | rfl) | inside) | rfl | rfl) | inside) | rfl
  · decide
  · decide
  · exact isUnbroken_description title
  · decide
  · decide
  · obtain ⟨_, found, mem⟩ := List.mem_flatMap.mp inside
    obtain ⟨entry, held, rfl⟩ := List.mem_map.mp found
    exact isUnbroken_lines comments (readable entry held) line mem
  · decide
  · decide
  · obtain ⟨_, found, rfl⟩ := List.mem_map.mp inside
    obtain ⟨entry, held, rfl⟩ := List.mem_map.mp found
    exact isUnbroken_entryLine (readable entry held).name
      (isPlain_variable (readable entry held).plain)
  · decide

theorem readModule_entries (comments : Bool) (title : String) {entries : List (Table × String)}
    (readable : ∀ entry ∈ entries, entry.1.IsReadableAs entry.2) :
    readModule (tidied (endedLines (moduleLines title
        (entries.map fun entry => definition comments entry.1 entry.2)))) =
      some (entries.map (fun entry => collectionReading entry.1 (entry.2 ++ "Collection")) ++
        [SectionReading.exports
          (entries.map fun entry => (entry.1.name, entry.2 ++ "Collection"))]) := by
  have reads : ∀ entry ∈ entries, ∀ rest,
      readSection (codeOf (definition comments entry.1 entry.2).lines ++ rest) =
        some (collectionReading entry.1 (entry.2 ++ "Collection"), rest) :=
    fun entry mem rest => readSection_lines comments (readable entry mem) rest
  have nonempty : ∀ entry ∈ entries, codeOf (definition comments entry.1 entry.2).lines ≠ [] := by
    intro entry _
    rw [codeOf_lines]
    exact List.cons_ne_nil _ _
  have exports := readAll_step (readSection_exportLines readable) (List.cons_ne_nil _ _)
  rw [List.append_nil, readAll_nil] at exports
  rw [readModule, codeLines_tidied (isUnbroken_moduleLines comments title readable),
    codeOf_moduleLines, afterLine?_cons]
  simp only [Option.bind_eq_bind, Option.bind_some]
  rw [readAll_flatMap_append reads nonempty, exports]
  rfl

/-- The variables that the collections of a schema are bound to. -/
def names (schema : Schema) : List String := (schema.scriptNames .camel).map (· ++ "Collection")

theorem reading_names (schema : Schema) :
    reading schema.tables (names schema) =
      (schema.tables.zip (schema.scriptNames .camel)).map
          (fun entry => collectionReading entry.1 (entry.2 ++ "Collection")) ++
        [SectionReading.exports ((schema.tables.zip (schema.scriptNames .camel)).map fun entry =>
          (entry.1.name, entry.2 ++ "Collection"))] := by
  rw [reading, names, List.zip_map_right, List.map_map, List.map_map]
  rfl

theorem definitions_eq (comments : Bool) (tables : List Table) (register : Register) :
    definitions comments tables register =
      (tables.zip (register.issueAll
        (tables.map fun table => { name := table.name, style := .camel }))).map
          fun (table, identifier) => definition comments table identifier := by
  induction tables generalizing register with
  | nil => rfl
  | cons table rest ih =>
      simp only [definitions, ih, List.map_cons, Register.issueAll, List.zip_cons_cons]

theorem moduleText_schema (comments : Bool) (schema : Schema) :
    moduleText comments (.schema schema) =
      endedLines (moduleLines schema.name
        ((schema.tables.zip (schema.scriptNames .camel)).map fun entry =>
          definition comments entry.1 entry.2)) := by
  rw [Schema.scriptNames, ← definitions_eq]
  rfl

/--
The collections of a schema are generated from all of its tables in order and bound to variables
that differ.  Each has one member for each field in order, of the field's name and expression and
optional just when the field is not required, and the name of each table leads to the variable of
that table's collection.
-/
theorem collections_read_back {settings : Settings} (ended : settings.lineEnding = .str "\n")
    {schema : Schema} (distinct : schema.HasDistinctNames) (trimmed : schema.HasTrimmedNames) :
    (names schema).length = schema.tables.length ∧ (names schema).Nodup ∧
      ∃ generator content, Kind.contentConfig.generator settings {} = .ok generator ∧
        generator.artifact (.schema schema) =
          .ok (.made content (targetWarnings (.schema schema))
            (generator.details (.schema schema))) ∧
        readModule content = some (reading schema.tables (names schema)) := by
  have noKebab : CaseStyle.camel ≠ .kebab := by decide
  have nodup := (distinct.scriptNames_nodup noKebab).1
  refine ⟨?_, ?_, _, tidied (moduleText (showsComments settings) (.schema schema)), rfl,
    Generator.artifact_of_lineFeed ended rfl, ?_⟩
  · rw [names, List.length_map, schema.length_scriptNames]
  · refine List.pairwise_map.mpr (nodup.imp fun apart same => apart ?_)
    exact (String.append_left_inj _).mp same
  · rw [moduleText_schema, reading_names]
    exact readModule_entries _ _ (trimmed.isReadableAs distinct noKebab)

def quotedSchema : Schema where
  name := "quoted\nimport"
  tables :=
    [{ name := "new"
       description := "first\n\x7d);"
       fields :=
        [{ name := "it's", required := true },
         { name := "z: z.any(),\n\x7d", type := .enum, enumValues := ["')", "a', 'b", "\\\n"] }] },
     { name := "New:", fields := [{ name := "id", type := .uuid, required := true }] }]

theorem collections_read_back_quotedSchema :
    quotedSchema.HasDistinctNames ∧ quotedSchema.HasTrimmedNames ∧
      ∃ settings : Settings, settings.lineEnding = .str "\n" ∧
      ∃ generator content, Kind.contentConfig.generator settings {} = .ok generator ∧
        generator.artifact (.schema quotedSchema) =
          .ok (.made content (targetWarnings (.schema quotedSchema))
            (generator.details (.schema quotedSchema))) ∧
        readModule content =
          some
            [.collection "new_Collection"
              [⟨"it's", .token "z.string()", false⟩,
               ⟨"z: z.any(),\n\x7d", .oneOf ["')", "a', 'b", "\\\n"], true⟩],
             .collection "new_1Collection" [⟨"id", .token "z.string().uuid()", false⟩],
             .exports [("new", "new_Collection"), ("New:", "new_1Collection")]] := by
  have distinct : quotedSchema.HasDistinctNames := by decide
  have trimmed : quotedSchema.HasTrimmedNames := by decide
  have named : names quotedSchema = ["new_Collection", "new_1Collection"] := by decide +kernel
  refine ⟨distinct, trimmed, { lineEnding := .str "\n" }, rfl, ?_⟩
  obtain ⟨-, -, made⟩ := @collections_read_back { lineEnding := .str "\n" } rfl _ distinct trimmed
  rw [named] at made
  exact made

end SchemaArtifacts.Collection
