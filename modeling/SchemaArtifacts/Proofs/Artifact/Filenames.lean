import Mathlib.Data.List.Infix
import SchemaArtifacts.Proofs.Artifact.Bundle
import SchemaArtifacts.Proofs.Files.Directory
import SchemaArtifacts.Proofs.Files.Extension

/-!
# Names of files

The file of an artifact has a fixed name, or it is named after the target, between two fixed texts.
So it is named differently from the file of any other kind, whatever the target is called and
however both kinds are set up.
-/

namespace SchemaArtifacts.Artifact

open Files

structure NamePattern where
  before : String := ""
  /-- Whether the name of the target stands between the fixed texts. -/
  named : Bool := true
  after : String
  deriving DecidableEq, Repr

namespace NamePattern

def text (pattern : NamePattern) (name : String) : String :=
  pattern.before ++ (if pattern.named then name else "") ++ pattern.after

def apart (first second : NamePattern) : Bool :=
  (!first.after.toList.isSuffixOf second.after.toList &&
    !second.after.toList.isSuffixOf first.after.toList) ||
  (first.named && second.named &&
    first.before.length + first.after.length != second.before.length + second.after.length)

theorem length_text (pattern : NamePattern) (name : String) :
    (pattern.text name).length =
      pattern.before.length + (if pattern.named then name.length else 0) +
        pattern.after.length := by
  cases held : pattern.named <;> simp [text, held]

theorem after_suffix_text (pattern : NamePattern) (name : String) :
    pattern.after.toList <:+ (pattern.text name).toList := by
  rw [text, String.toList_append]
  exact List.suffix_append _ _

theorem text_ne_of_apart {first second : NamePattern} (differ : first.apart second = true)
    (name : String) : first.text name ≠ second.text name := by
  intro same
  simp only [apart, Bool.or_eq_true, Bool.and_eq_true, Bool.not_eq_true', bne_iff_ne] at differ
  rcases differ with ⟨notFirst, notSecond⟩ | ⟨⟨firstNamed, secondNamed⟩, lengths⟩
  · have ending := first.after_suffix_text name
    rw [same] at ending
    rcases List.suffix_or_suffix_of_suffix ending (second.after_suffix_text name) with h | h
    · simp [List.isSuffixOf_iff_suffix.mpr h] at notFirst
    · simp [List.isSuffixOf_iff_suffix.mpr h] at notSecond
  · have whole := congrArg String.length same
    rw [length_text, length_text, firstNamed, secondNamed] at whole
    simp only [if_true] at whole
    omega

def isLevel (pattern : NamePattern) : Bool :=
  !pattern.before.toList.contains '/' && !pattern.after.toList.contains '/' &&
    3 ≤ pattern.after.length

theorem isPart_text {pattern : NamePattern} (level : pattern.isLevel = true) {name : String}
    (plain : pattern.named = true → '/' ∉ name.toList) : Path.IsPart (pattern.text name) := by
  simp only [isLevel, Bool.and_eq_true, Bool.not_eq_true', decide_eq_true_eq,
    List.contains_eq_mem, decide_eq_false_iff_not] at level
  obtain ⟨⟨before, after⟩, long⟩ := level
  refine Path.isPart_of_length ?_ ?_
  · cases held : pattern.named <;> simp_all [text]
  · have := pattern.length_text name
    omega

theorem exists_parts_text {pattern : NamePattern} (level : pattern.isLevel = true) (name : String) :
    ∃ init last, Path.IsPart last ∧ (Path.ofText (pattern.text name)).parts = init ++ [last] := by
  simp only [isLevel, Bool.and_eq_true, Bool.not_eq_true', decide_eq_true_eq,
    List.contains_eq_mem, decide_eq_false_iff_not] at level
  obtain ⟨⟨-, after⟩, long⟩ := level
  obtain ⟨init, stem, unbroken, cut⟩ :=
    Path.exists_parts_of_suffix (pattern.after_suffix_text name) after long
  refine ⟨init, _, Path.isPart_of_length ?_ ?_, cut⟩
  · simp [unbroken, after]
  · rw [String.length_ofList, List.length_append]
    exact Nat.le_add_left_of_le long

end NamePattern

namespace Kind

def namePatterns : Kind → List NamePattern
  | sql => Sql.Dialect.all.map fun dialect => { after := "_" ++ dialect.tag ++ ".sql" }
  | contentConfig => [{ named := false, after := "config.ts" }]
  | acfJson => [{ before := "acf_", after := ".json" }]
  | csv => [{ after := ".csv" }]
  | page => [{ after := "_[slug].astro" }]
  | documentation => [{ after := ".md" }]
  | typescript => [{ after := ".types.ts" }]
  | prisma => [{ named := false, after := "schema.prisma" }]
  | sampleData => [{ after := "_sample.csv" }, { after := "_sample.json" }]
  | schemaJson => [{ after := ".schema.json" }]

theorem mem_all (kind : Kind) : kind ∈ all := by
  cases kind <;> decide

theorem apart_of_ne : ∀ first ∈ all, ∀ second ∈ all, first ≠ second →
    ∀ pattern ∈ first.namePatterns, ∀ other ∈ second.namePatterns,
      pattern.apart other = true := by
  decide +kernel

theorem isLevel_of_mem_namePatterns : ∀ kind ∈ all, ∀ pattern ∈ kind.namePatterns,
    pattern.isLevel = true := by
  decide +kernel

theorem exists_namePattern {kind : Kind} {settings : Settings} {supply : Sample.Supply}
    {generator : Generator} (made : kind.generator settings supply = .ok generator)
    (name : String) :
    ∃ pattern ∈ kind.namePatterns, generator.filename name = pattern.text name := by
  unfold Kind.generator at made
  split at made
  · cases made
  · cases kind with
    | sql =>
        obtain ⟨dialect, -, made⟩ := bind_eq_ok_iff.mp made
        cases made
        have known : dialect ∈ Sql.Dialect.all := by cases dialect <;> decide
        exact ⟨_, List.mem_map_of_mem known, by simp [NamePattern.text, String.append_assoc]⟩
    | sampleData =>
        obtain ⟨format, -, made⟩ := bind_eq_ok_iff.mp made
        cases made
        have ending (extension : String) : name ++ "_sample" ++ extension =
            NamePattern.text { after := "_sample" ++ extension } name := by
          simp [NamePattern.text, String.append_assoc]
        cases format with
        | records => exact ⟨_, List.mem_cons_self, ending ".csv"⟩
        | json => exact ⟨_, List.mem_cons_of_mem _ List.mem_cons_self, ending ".json"⟩
    | csv | documentation =>
        obtain ⟨dialect, -, made⟩ := bind_eq_ok_iff.mp made
        cases made
        exact ⟨_, List.mem_cons_self, by simp [NamePattern.text]⟩
    | _ =>
        cases made
        exact ⟨_, List.mem_cons_self, by simp [NamePattern.text]⟩

theorem filename_ne {first second : Kind} (differ : first ≠ second) {settings others : Settings}
    {supply supplies : Sample.Supply} {generator other : Generator}
    (made : first.generator settings supply = .ok generator)
    (made' : second.generator others supplies = .ok other) (name : String) :
    generator.filename name ≠ other.filename name := by
  obtain ⟨pattern, mem, named⟩ := exists_namePattern made name
  obtain ⟨pattern', mem', named'⟩ := exists_namePattern made' name
  rw [named, named']
  exact NamePattern.text_ne_of_apart
    (apart_of_ne first (mem_all first) second (mem_all second) differ _ mem _ mem') name

theorem isPart_filename {kind : Kind} {settings : Settings} {supply : Sample.Supply}
    {generator : Generator} (made : kind.generator settings supply = .ok generator)
    {name : String} (plain : '/' ∉ name.toList) : Path.IsPart (generator.filename name) := by
  obtain ⟨pattern, mem, named⟩ := exists_namePattern made name
  rw [named]
  exact NamePattern.isPart_text (isLevel_of_mem_namePatterns kind (mem_all kind) pattern mem)
    fun _ => plain

/-- Kinds whose files have one name, whatever the target is called. -/
def hasFixedName (kind : Kind) : Bool := kind.namePatterns.all (!·.named)

theorem isPart_filename_of_hasFixedName {kind : Kind} {settings : Settings}
    {supply : Sample.Supply} {generator : Generator}
    (made : kind.generator settings supply = .ok generator) (fixed : kind.hasFixedName = true)
    (name : String) : Path.IsPart (generator.filename name) := by
  obtain ⟨pattern, mem, named⟩ := exists_namePattern made name
  have unnamed := List.all_eq_true.mp fixed pattern mem
  rw [named]
  exact NamePattern.isPart_text (isLevel_of_mem_namePatterns kind (mem_all kind) pattern mem)
    fun held => by simp [held] at unnamed

theorem exists_parts_filename {kind : Kind} {settings : Settings} {supply : Sample.Supply}
    {generator : Generator} (made : kind.generator settings supply = .ok generator)
    (name : String) :
    ∃ init last, Path.IsPart last ∧
      (Path.ofText (generator.filename name)).parts = init ++ [last] := by
  obtain ⟨pattern, mem, named⟩ := exists_namePattern made name
  rw [named]
  exact NamePattern.exists_parts_text
    (isLevel_of_mem_namePatterns kind (mem_all kind) pattern mem) name

end Kind

theorem entries_builtin : builtin.entries = Kind.all.map fun kind => (kind.tag, kind.maker) := by
  rfl

theorem lower_trim_tag : ∀ kind ∈ Kind.all, Text.lower (Text.trim kind.tag) = kind.tag := by
  decide +kernel

theorem valueOf_tag (kind : Kind) : builtin.valueOf kind.tag = .ok kind.maker := by
  have mem : (kind.tag, kind.maker) ∈ builtin.entries := by
    rw [entries_builtin]
    exact List.mem_map_of_mem kind.mem_all
  have distinct : (Keyed.keys builtin.entries).Nodup := by
    rw [entries_builtin]
    decide
  have has : Keyed.has builtin.entries kind.tag = true :=
    Keyed.has_eq_true_iff.mpr (List.mem_map_of_mem mem)
  have resolved : builtin.resolve kind.tag = .ok kind.tag := by
    simp only [Registry.resolve, Registry.resolve?, lower_trim_tag kind kind.mem_all, has, if_true]
  rw [Registry.valueOf, resolved]
  simp only [bind, Except.bind, Keyed.get?_of_mem distinct mem]
  rfl

theorem exists_generator_of_made {options : Options} {tree : Tree} {target : Target} {kind : Kind}
    {content : String} {warnings : List String} {details : Details}
    (made : options.artifactFor builtin tree target kind = .ok (.made content warnings details)) :
    ∃ settings supply generator, kind.generator settings supply = .ok generator ∧
      details.filename = generator.filename target.name := by
  obtain ⟨generator, created, made⟩ := bind_eq_ok_iff.mp made
  obtain ⟨settings, -, created⟩ := bind_eq_ok_iff.mp created
  rw [Makers.create_of_valueOf (valueOf_tag kind)] at created
  refine ⟨settings, _, generator, created, ?_⟩
  rw [Generator.artifact] at made
  split at made
  · cases made
    rfl
  · cases made
  · cases made

end SchemaArtifacts.Artifact
