import SchemaArtifacts.Prisma.Model
import SchemaArtifacts.Proofs.Naming.Answers
import SchemaArtifacts.Proofs.Schema.References

/-!
# Names of models and enums

One register names the models of a file and its enums.  An enum is asked for under the name that its
model was given, so what the register is asked depends on what it answered.  Models differ from each
other, and so do enums; but a table that is named like the base of an enum makes the same request as
that enum, and is given the enum's name for its model.
-/

namespace SchemaArtifacts.Prisma

open Naming

variable {comments : Bool} {tables : List Table}

def nameRequest (name : String) : Request := { name, style := .pascal }

def enumBases (model : String) (fields : List Field) : List String :=
  (fields.filter (·.hasEnumValues)).map fun field => model ++ "_" ++ field.name

theorem enumBases_cons (model : String) (field : Field) (rest : List Field) :
    enumBases model (field :: rest) =
      (if field.hasEnumValues then [model ++ "_" ++ field.name] else []) ++ enumBases model rest := by
  rw [enumBases, List.filter_cons]
  split <;> rfl

theorem fieldEntries_names (comments : Bool) (model : String) (fields : List Field)
    (register : Register) :
    (fieldEntries comments model fields register).2.1.map (·.name) =
        register.issueAll ((enumBases model fields).map nameRequest) ∧
      (fieldEntries comments model fields register).2.2 =
        register.after ((enumBases model fields).map nameRequest) := by
  induction fields generalizing register with
  | nil => exact ⟨rfl, rfl⟩
  | cons field rest ih =>
      rw [enumBases_cons, fieldEntries]
      split
      case isTrue closed =>
        obtain ⟨names, last⟩ :=
          ih (register.issue (nameRequest (model ++ "_" ++ field.name))).2
        exact ⟨congrArg _ names, last⟩
      case isFalse => exact ih register

theorem models_cons (comments : Bool) (table : Table) (rest : List Table) (register : Register) :
    ∃ model enums after,
      after = register.after ((table.name :: enumBases model.name table.fields).map nameRequest) ∧
      models comments (table :: rest) register =
        (model :: (models comments rest after).1, enums ++ (models comments rest after).2) ∧
      model.name :: enums.map (·.name) =
        register.issueAll ((table.name :: enumBases model.name table.fields).map nameRequest) := by
  obtain ⟨names, last⟩ := fieldEntries_names comments (register.issue (nameRequest table.name)).1
    table.fields (register.issue (nameRequest table.name)).2
  exact ⟨(tableModel comments table register).1, (tableModel comments table register).2.1,
    (tableModel comments table register).2.2, last, rfl, congrArg _ names⟩

def basesOf (tables : List Table) (models : List Model) : List String :=
  (tables.zip models).flatMap fun (table, model) => enumBases model.name table.fields

def askedNames (tables : List Table) (models : List Model) : List String :=
  (tables.zip models).flatMap fun (table, model) => table.name :: enumBases model.name table.fields

def lastRegister (comments : Bool) (tables : List Table) (register : Register) : Register :=
  register.after ((askedNames tables (models comments tables register).1).map nameRequest)

def Names (register : Register) (name identifier : String) : Prop :=
  register.Holds (nameRequest name).key identifier

theorem nameRequest_key_inj {name other : String}
    (same : (nameRequest name).key = (nameRequest other).key) : name = other := by
  have equal : nameRequest name = nameRequest other := Request.key_inj rfl same
  exact congrArg Request.name equal

theorem biUnique_names {register : Register} (distinct : register.identifiers.Nodup) :
    Relator.BiUnique (Names register) := by
  obtain ⟨keyed, identified⟩ := Register.biUnique_holds distinct
  exact ⟨fun _ _ _ held held' => nameRequest_key_inj (keyed held held'),
    fun _ _ _ held held' => identified held held'⟩

theorem names_after (register : Register) (names : List String) :
    List.Forall₂ (Names (register.after (names.map nameRequest))) names
      (register.issueAll (names.map nameRequest)) := by
  have held := register.holds_after (names.map nameRequest)
  rw [List.map_map, List.forall₂_map_left_iff] at held
  exact held

theorem models_names (comments : Bool) (tables : List Table) (register : Register) :
    List.Forall₂ (Names (lastRegister comments tables register)) (tables.map (·.name))
        ((models comments tables register).1.map (·.name)) ∧
      List.Forall₂ (Names (lastRegister comments tables register))
        (basesOf tables (models comments tables register).1)
        ((models comments tables register).2.map (·.name)) := by
  induction tables generalizing register with
  | nil => exact ⟨.nil, .nil⟩
  | cons table rest ih =>
      obtain ⟨model, enums, after, reached, made, names⟩ :=
        models_cons comments table rest register
      obtain ⟨later, laterEnums⟩ := ih after
      have last : lastRegister comments (table :: rest) register =
          lastRegister comments rest after := by
        rw [lastRegister, made, lastRegister, reached, ← Register.after_append, ← List.map_append]
        rfl
      have held := names_after register (table.name :: enumBases model.name table.fields)
      rw [← names, ← reached] at held
      have kept := held.imp fun name identifier held => held.after
        ((askedNames rest (models comments rest after).1).map nameRequest)
      obtain ⟨first, closed⟩ := List.forall₂_cons.mp kept
      rw [last, made]
      refine ⟨.cons first later, ?_⟩
      rw [List.map_append]
      exact List.rel_append closed laterEnums

section

variable {α : Type} {c : α} {xs ys zs ws : List α}

private theorem eq_of_append_cons_eq (before : c ∉ xs) (after : c ∉ ys)
    (same : zs ++ c :: ws = xs ++ c :: ys) : zs = xs := by
  rcases List.append_eq_append_iff.mp same with ⟨more, longer, rest⟩ | ⟨more, longer, rest⟩
  · cases more with
    | nil => simpa using longer.symm
    | cons d more =>
        obtain ⟨rfl, -⟩ := List.cons.inj rest
        exact absurd (by simp [longer]) before
  · cases more with
    | nil => simpa using longer
    | cons d more =>
        obtain ⟨rfl, rfl⟩ := List.cons.inj rest
        exact absurd (by simp) after

private theorem eq_of_append_cons_eq' (apart : ∀ more, zs ≠ xs ++ c :: more)
    (apart' : ∀ more, xs ≠ zs ++ c :: more) (same : zs ++ c :: ws = xs ++ c :: ys) :
    zs = xs ∧ ws = ys := by
  rcases List.append_eq_append_iff.mp same with ⟨more, longer, rest⟩ | ⟨more, longer, rest⟩
  · cases more with
    | nil =>
        exact ⟨by simpa using longer.symm, by simpa using rest⟩
    | cons d more =>
        obtain ⟨rfl, -⟩ := List.cons.inj rest
        exact absurd longer (apart' more)
  · cases more with
    | nil => exact ⟨by simpa using longer, by simpa using rest.symm⟩
    | cons d more =>
        obtain ⟨rfl, -⟩ := List.cons.inj rest
        exact absurd longer (apart more)

end

theorem candidate_eq_append (identifier : String) (n : Nat) :
    ∃ digits, '_' ∉ digits ∧
      (Register.candidate identifier n).toList = identifier.toList ++ digits := by
  cases n with
  | zero => exact ⟨[], List.not_mem_nil, (List.append_nil _).symm⟩
  | succ n =>
      refine ⟨Text.numeralChars (n + 1), fun mem => ?_, by
        rw [Register.candidate, String.toList_append, Text.numeral, String.toList_ofList]⟩
      exact absurd (Text.isAsciiDigit_of_mem_numeralChars mem) (by decide)

/-- The names that tables and enums are given are no reserved words, and end a reserved word with
an underscore and a number at most. -/
theorem toList_ne_append_underscore {names : List String} {identifier other : String}
    (mem : identifier ∈ Register.forModels.issueAll (names.map nameRequest))
    (unreserved : Register.forModels.isReserved other = false) (more : List Char) :
    identifier.toList ≠ other.toList ++ '_' :: more := by
  have settled : ∃ name n, identifier =
      Register.candidate (Register.forModels.wanted (nameRequest name)) n := by
    refine Register.mem_issueAll_cases
      (p := fun identifier => ∃ name n, identifier =
        Register.candidate (Register.forModels.wanted (nameRequest name)) n) ?_ ?_ identifier mem
    · intro held mem
      cases mem
    · intro state same request mem
      obtain ⟨name, -, rfl⟩ := List.mem_map.mp mem
      obtain ⟨n, written, -⟩ := state.free_eq_candidate (state.wanted (nameRequest name))
      exact ⟨name, n, by rw [← Register.wanted_congr same]; exact written⟩
  obtain ⟨name, n, rfl⟩ := settled
  obtain ⟨digits, noMark, written⟩ :=
    candidate_eq_append (Register.forModels.wanted (nameRequest name)) n
  have plain : '_' ∉ (nameRequest name).converted.toList := underscore_not_mem_pascal name
  have wanted : Register.forModels.wanted (nameRequest name) =
      if Register.forModels.isReserved (nameRequest name).converted then
        (nameRequest name).converted ++ "_"
      else (nameRequest name).converted := rfl
  rw [written, wanted]
  generalize (nameRequest name).converted = converted at plain
  intro same
  split at same
  case isTrue reserved =>
    rw [String.toList_append, List.append_assoc] at same
    have word : other.toList = converted.toList := eq_of_append_cons_eq plain noMark same.symm
    rw [String.toList_inj.mp word, reserved] at unreserved
    cases unreserved
  case isFalse =>
    have mark : '_' ∈ converted.toList ++ digits := by simp [same]
    rcases List.mem_append.mp mark with mem | mem
    · exact plain mem
    · exact noMark mem

/-! ## Models and enums of a file -/

def fileModels (comments : Bool) (tables : List Table) : List Model :=
  (models comments tables Register.forModels).1

def fileEnums (comments : Bool) (tables : List Table) : List Enum :=
  (models comments tables Register.forModels).2

def declaredNames (comments : Bool) (tables : List Table) : List String :=
  (fileModels comments tables).map (·.name) ++ (fileEnums comments tables).map (·.name)

def fileRegister (comments : Bool) (tables : List Table) : Register :=
  lastRegister comments tables Register.forModels

theorem biUnique_fileRegister (comments : Bool) (tables : List Table) :
    Relator.BiUnique (Names (fileRegister comments tables)) := by
  have nothing : Register.forModels.identifiers.Nodup := List.nodup_nil
  exact biUnique_names (Register.nodup_after nothing _)

theorem Names.mem_issueAll {name identifier : String}
    (named : Names (fileRegister comments tables) name identifier) :
    identifier ∈ Register.forModels.issueAll
      ((askedNames tables (fileModels comments tables)).map nameRequest) := by
  have held : identifier ∈ (Register.forModels.reset.after
      ((askedNames tables (fileModels comments tables)).map nameRequest)).identifiers :=
    Register.Holds.mem_identifiers named
  exact Register.mem_identifiers_reset.mp held

theorem Names.toList_ne {name name' identifier other : String}
    (named : Names (fileRegister comments tables) name identifier)
    (named' : Names (fileRegister comments tables) name' other) (more : List Char) :
    identifier.toList ≠ other.toList ++ '_' :: more := by
  have unreserved : Register.forModels.isReserved other = false := by
    refine Register.isReserved_answer Register.hasPlainWords_forModels.hasOpenEnds ?_ other
      named'.mem_issueAll
    intro request mem
    obtain ⟨name, -, rfl⟩ := List.mem_map.mp mem
    rfl
  exact toList_ne_append_underscore named.mem_issueAll unreserved more

theorem names_of_mem_zip {entry : Table × Model}
    (mem : entry ∈ tables.zip (fileModels comments tables)) :
    Names (fileRegister comments tables) entry.1.name entry.2.name := by
  have named := (models_names comments tables Register.forModels).1
  rw [List.forall₂_map_left_iff, List.forall₂_map_right_iff] at named
  exact (List.forall₂_iff_zip.mp named).2 mem

theorem base_inj {name name' model other field field' : String}
    (named : Names (fileRegister comments tables) name model)
    (named' : Names (fileRegister comments tables) name' other)
    (same : model ++ "_" ++ field = other ++ "_" ++ field') : model = other ∧ field = field' := by
  have marked : model.toList ++ '_' :: field.toList = other.toList ++ '_' :: field'.toList := by
    simpa using congrArg String.toList same
  obtain ⟨models, fields⟩ :=
    eq_of_append_cons_eq' (named.toList_ne named') (named'.toList_ne named) marked
  exact ⟨String.toList_inj.mp models, String.toList_inj.mp fields⟩

theorem nodup_enumBases (model : String) {fields : List Field}
    (distinct : (fields.map (·.name)).Nodup) : (enumBases model fields).Nodup := by
  have apart := (List.pairwise_map.mp distinct).filter Field.hasEnumValues
  refine List.pairwise_map.mpr (apart.imp ?_)
  exact fun apart same => apart (String.append_right_inj _ |>.mp same)

theorem mem_basesOf {models : List Model} {base : String} :
    base ∈ basesOf tables models ↔
      ∃ entry ∈ tables.zip models, ∃ field ∈ entry.1.fields, field.hasEnumValues = true ∧
        entry.2.name ++ "_" ++ field.name = base := by
  simp only [basesOf, enumBases, List.mem_flatMap, List.mem_map, List.mem_filter, and_assoc]

theorem nodup_basesOf (comments : Bool) (distinct : (tables.map (·.name)).Nodup)
    (fields : ∀ table ∈ tables, (table.fields.map (·.name)).Nodup) :
    (basesOf tables (fileModels comments tables)).Nodup := by
  refine List.nodup_flatMap.mpr ⟨?_, ?_⟩
  · intro entry mem
    exact nodup_enumBases _ (fields _ (List.of_mem_zip mem).1)
  · have lengths := (models_names comments tables Register.forModels).1.length_eq
    rw [List.length_map, List.length_map] at lengths
    have apart : (tables.zip (fileModels comments tables)).Pairwise
        fun entry other => entry.1.name ≠ other.1.name := by
      rw [← List.map_fst_zip (Nat.le_of_eq lengths), List.map_map] at distinct
      exact List.pairwise_map.mp distinct
    refine apart.imp_of_mem fun mem mem' apart => List.disjoint_left.mpr fun base inside inside' => ?_
    obtain ⟨field, -, rfl⟩ := List.mem_map.mp inside
    obtain ⟨field', -, same⟩ := List.mem_map.mp inside'
    obtain ⟨models, -⟩ := base_inj (names_of_mem_zip mem') (names_of_mem_zip mem) same
    have named := names_of_mem_zip mem'
    rw [models] at named
    exact apart ((biUnique_fileRegister comments tables).1 (names_of_mem_zip mem) named)

/--
The models of a schema's file have names that differ, and so have its enums.  A model and an enum
share a name just where a table is named like the base of an enum: the name of a model, an
underscore and the name of one of its fields.
-/
theorem declaredNames_nodup_iff (comments : Bool) {schema : Schema}
    (distinct : schema.HasDistinctNames) (fields : schema.HasDistinctFields) :
    (∀ source, fileText comments source (.schema schema) =
        Collection.endedLines (fileLines schema.name source (fileModels comments schema.tables)
          (fileEnums comments schema.tables))) ∧
      ((fileModels comments schema.tables).map (·.name)).Nodup ∧
      ((fileEnums comments schema.tables).map (·.name)).Nodup ∧
      ((declaredNames comments schema.tables).Nodup ↔
        ∀ entry ∈ schema.tables.zip (fileModels comments schema.tables),
          ∀ field ∈ entry.1.fields, field.hasEnumValues = true →
            entry.2.name ++ "_" ++ field.name ∉ schema.tables.map (·.name)) := by
  obtain ⟨modelsNamed, enumsNamed⟩ := models_names comments schema.tables Register.forModels
  have unique := biUnique_fileRegister comments schema.tables
  have bases := nodup_basesOf comments distinct fields
  refine ⟨fun _ => rfl, (List.rel_nodup unique modelsNamed).mp distinct,
    (List.rel_nodup unique enumsNamed).mp bases, ?_⟩
  refine (List.rel_nodup unique (List.rel_append modelsNamed enumsNamed)).symm.trans ?_
  rw [List.nodup_append]
  constructor
  · rintro ⟨-, -, apart⟩ entry mem field held closed shared
    exact apart _ shared _ (mem_basesOf.mpr ⟨entry, mem, field, held, closed, rfl⟩) rfl
  · intro apart
    refine ⟨distinct, bases, ?_⟩
    rintro name shared base asked rfl
    obtain ⟨entry, mem, field, held, closed, rfl⟩ := mem_basesOf.mp asked
    exact apart entry mem field held closed shared

def modelSchema : Schema where
  name := "models"
  tables :=
    [{ name := "model", fields := [{ name := "kind", type := .enum, enumValues := ["a", "b"] }] },
     { name := "Model", fields := [{ name := "kind", type := .enum, enumValues := ["c"] }] },
     { name := "model kind", fields := [{ name := "id" }] }]

theorem declaredNames_nodup_modelSchema :
    modelSchema.HasDistinctNames ∧ modelSchema.HasDistinctFields ∧
      declaredNames true modelSchema.tables =
        ["Model_", "Model_1", "ModelKind1", "ModelKind", "Model1Kind"] ∧
      (declaredNames true modelSchema.tables).Nodup := by
  have distinct : modelSchema.HasDistinctNames := by decide
  have fields : modelSchema.HasDistinctFields := by decide
  obtain ⟨-, -, -, apart⟩ := declaredNames_nodup_iff true distinct fields
  exact ⟨distinct, fields, by decide +kernel, apart.mpr (by decide +kernel)⟩

def roleSchema : Schema where
  name := "shop"
  tables :=
    [{ name := "User"
       fields :=
        [{ name := "id", type := .uuid, primaryKey := true },
         { name := "role", type := .enum, enumValues := ["admin", "guest"] }] },
     { name := "User_role", fields := [{ name := "id", type := .uuid, primaryKey := true }] }]

/-- Its model and the enum have one name. -/
theorem declaredNames_not_nodup_roleSchema :
    roleSchema.HasDistinctNames ∧ roleSchema.HasDistinctFields ∧
      (fileModels true roleSchema.tables).map (·.name) = ["User", "UserRole"] ∧
      (fileEnums true roleSchema.tables).map (·.name) = ["UserRole"] ∧
      ¬ (declaredNames true roleSchema.tables).Nodup := by
  decide +kernel

end SchemaArtifacts.Prisma
