import SchemaArtifacts.Proofs.Escape.Script

/-!
# Keys read back

A key is an identifier or a literal, and every trimmed name is read back from its key.  So is every
other name, unless it is an identifier with a line feed after it: that is taken for an identifier,
and the line feed is lost.  The same holds of the expressions that read a member of an entry.
-/

namespace SchemaArtifacts.Escape

open Text

def readIdentifier : Reader Char String
  | [] => none
  | c :: rest =>
    if startsIdentifier c then
      some (String.ofList (c :: rest.takeWhile continuesIdentifier),
        rest.dropWhile continuesIdentifier)
    else none

def readKey : Reader Char String := fun cs => (readLiteral cs).or (readIdentifier cs)

def IsBareName (name : String) : Prop :=
  ∃ first others, name.toList = first :: others ∧ startsIdentifier first = true ∧
    ∀ c ∈ others, continuesIdentifier c = true

def IsFedName (name : String) : Prop :=
  ∃ identifier, IsBareName identifier ∧ name = identifier ++ "\n"

theorem not_continuesIdentifier_of_isLineBreak {c : Char} (breaks : isLineBreak c = true) :
    continuesIdentifier c = false := by
  rw [isLineBreak, Bool.or_eq_true, beq_iff_eq, beq_iff_eq] at breaks
  rcases breaks with rfl | rfl <;> decide

theorem IsBareName.isOneLine {name : String} (identifier : IsBareName name) :
    IsOneLine name := by
  obtain ⟨first, others, chars, starts, continues⟩ := identifier
  have plain {c : Char} (continues : continuesIdentifier c = true) : isLineBreak c = false :=
    Bool.eq_false_iff.mpr fun breaks => by
      simp [not_continuesIdentifier_of_isLineBreak breaks] at continues
  rw [IsOneLine, chars, List.forall_mem_cons]
  exact ⟨plain (by simp [continuesIdentifier, starts]), fun c mem => plain (continues c mem)⟩

theorem IsFedName.not_isOneLine {name : String} (fed : IsFedName name) :
    ¬ IsOneLine name := by
  obtain ⟨identifier, -, rfl⟩ := fed
  intro single
  exact absurd (single '\n' (by simp)) (by decide)

theorem IsFedName.not_isTrimmed {name : String} (fed : IsFedName name) :
    ¬ IsTrimmed name.toList := by
  obtain ⟨identifier, -, rfl⟩ := fed
  intro trimmed
  exact absurd (trimmed.2 '\n' (by simp)) (by decide)

theorem isBareKey_iff {name : String} :
    isBareKey name.toList = true ↔ IsBareName name ∨ IsFedName name := by
  constructor
  · intro bare
    cases chars : name.toList with
    | nil => simp [chars, isBareKey] at bare
    | cons first others =>
        rw [chars, isBareKey, Bool.and_eq_true] at bare
        obtain ⟨starts, ends⟩ := bare
        have cut := @List.takeWhile_append_dropWhile _ continuesIdentifier others
        cases ending : others.dropWhile continuesIdentifier with
        | nil => exact .inl ⟨first, others, chars, starts, List.dropWhile_eq_nil_iff.mp ending⟩
        | cons c rest =>
            have feed : c :: rest = ['\n'] := by simpa [ending] using ends
            refine .inr ⟨String.ofList (first :: others.takeWhile continuesIdentifier),
              ⟨first, _, String.toList_ofList, starts, List.all_eq_true.mp List.all_takeWhile⟩, ?_⟩
            rw [ending, feed] at cut
            rw [← String.toList_inj, String.toList_append, String.toList_ofList, chars,
              List.cons_append]
            exact congrArg (first :: ·) cut.symm
  · rintro (⟨first, others, chars, starts, continues⟩ |
      ⟨identifier, ⟨first, others, chars, starts, continues⟩, rfl⟩)
    · simp [chars, isBareKey, starts, List.dropWhile_eq_nil_iff.mpr continues]
    · rw [String.toList_append, chars, List.cons_append, isBareKey, starts,
        List.dropWhile_append_of_pos continues]
      decide

theorem isBareName_iff {name : String} :
    IsBareName name ↔ isBareKey name.toList = true ∧ IsOneLine name := by
  rw [isBareKey_iff]
  constructor
  · exact fun identifier => ⟨.inl identifier, identifier.isOneLine⟩
  · exact fun ⟨either, single⟩ => either.resolve_right fun fed => fed.not_isOneLine single

theorem isFedName_iff {name : String} :
    IsFedName name ↔ isBareKey name.toList = true ∧ ¬ IsOneLine name := by
  rw [isBareKey_iff]
  constructor
  · exact fun fed => ⟨.inr fed, fed.not_isOneLine⟩
  · exact fun ⟨either, broken⟩ => either.resolve_left fun identifier => broken identifier.isOneLine

instance (name : String) : Decidable (IsBareName name) :=
  decidable_of_iff _ isBareName_iff.symm

instance (name : String) : Decidable (IsFedName name) :=
  decidable_of_iff _ isFedName_iff.symm

theorem readIdentifier_append {name : String} (identifier : IsBareName name) {rest : List Char}
    (ends : ∀ c ∈ rest.head?, continuesIdentifier c = false) :
    readIdentifier (name.toList ++ rest) = some (name, rest) := by
  obtain ⟨first, others, chars, starts, continues⟩ := identifier
  obtain ⟨taken, left⟩ := span_append continues ends
  rw [chars, List.cons_append, readIdentifier, if_pos starts, taken, left, ← chars,
    String.ofList_toList]

theorem readKey_bareName {name : String} (identifier : IsBareName name) {rest : List Char}
    (ends : ∀ c ∈ rest.head?, continuesIdentifier c = false) :
    readKey (name.toList ++ rest) = some (name, rest) := by
  have noLiteral : readLiteral (name.toList ++ rest) = none := by
    obtain ⟨first, others, chars, starts, -⟩ := identifier
    have noQuote : first ≠ '\'' := by
      rintro rfl
      exact absurd starts (by decide)
    simp [chars, readLiteral, noQuote]
  rw [readKey, noLiteral, Option.none_or, readIdentifier_append identifier ends]

theorem readKey_scriptLiteral (name : String) (rest : List Char) :
    readKey ((scriptLiteral name).toList ++ rest) = some (name, rest) := by
  rw [readKey, readLiteral_scriptLiteral]
  rfl

theorem objectKey_cases {name : String} (noFeed : ¬ IsFedName name) :
    IsBareName name ∧ objectKey name = name ∨
      ¬ IsBareName name ∧ objectKey name = scriptLiteral name := by
  by_cases bare : isBareKey name.toList = true
  · exact .inl ⟨(isBareKey_iff.mp bare).resolve_right noFeed, if_pos bare⟩
  · exact .inr ⟨fun identifier => bare (isBareKey_iff.mpr (.inl identifier)), if_neg bare⟩

theorem objectKey_of_fed {name : String} (fed : IsFedName name) : objectKey name = name :=
  if_pos (isBareKey_iff.mpr (.inr fed))

theorem readKey_objectKey {name : String} (trimmed : IsTrimmed name.toList) {rest : List Char}
    (ends : ∀ c ∈ rest.head?, continuesIdentifier c = false) :
    readKey ((objectKey name).toList ++ rest) = some (name, rest) := by
  rcases objectKey_cases fun fed => fed.not_isTrimmed trimmed with
    ⟨identifier, bare⟩ | ⟨-, quoted⟩
  · rw [bare, readKey_bareName identifier ends]
  · rw [quoted, readKey_scriptLiteral]

theorem isOneLine_objectKey {name : String} (noFeed : ¬ IsFedName name) :
    IsOneLine (objectKey name) := by
  rcases objectKey_cases noFeed with ⟨identifier, bare⟩ | ⟨-, quoted⟩
  · rw [bare]
    exact identifier.isOneLine
  · rw [quoted]
    exact isOneLine_scriptLiteral name

theorem isUnbroken_objectKey {name : String} (trimmed : IsTrimmed name.toList) :
    IsUnbroken (objectKey name) :=
  (isOneLine_objectKey fun fed => fed.not_isTrimmed trimmed).isUnbroken

theorem objectKey_eq_cons (name : String) :
    ∃ first others, (objectKey name).toList = first :: others ∧
      (first = '\'' ∨ startsIdentifier first = true) := by
  rw [objectKey]
  split
  case isTrue bare =>
    cases written : name.toList with
    | nil => simp [written, isBareKey] at bare
    | cons first others =>
        rw [written, isBareKey, Bool.and_eq_true] at bare
        exact ⟨first, others, rfl, .inr bare.1⟩
  case isFalse quoted =>
    exact ⟨'\'', name.toList.flatMap scriptChar ++ ['\''], by
      simp [scriptLiteral, scriptLiteralChars], .inl rfl⟩

/-! ## Entries -/

def readAccess : Reader Char String
  | '.' :: cs => readIdentifier cs
  | '[' :: cs => do
    let (name, rest) ← readLiteral cs
    return (name, ← afterPattern? [']'] rest)
  | _ => none

/-- The member that an expression of a page reads of its entry.  Line breaks before the closing
brace are of no account. -/
def readEntryExpression : Reader Char String := fun cs => do
  let (name, rest) ← readAccess (← afterPattern? "\x7bentry.data".toList cs)
  return (name, ← afterPattern? ['\x7d'] (rest.dropWhile isLineBreak))

theorem readEntryExpression_bareName {name : String} (identifier : IsBareName name)
    {breaks : List Char} (all : ∀ c ∈ breaks, isLineBreak c = true) (rest : List Char) :
    readEntryExpression
        ("\x7bentry.data".toList ++ '.' :: (name.toList ++ (breaks ++ '\x7d' :: rest))) =
      some (name, rest) := by
  have ends : ∀ c ∈ (breaks ++ '\x7d' :: rest).head?, continuesIdentifier c = false := by
    intro c first
    cases breaks with
    | nil =>
        obtain rfl : '\x7d' = c := Option.some.inj first
        decide
    | cons d breaks =>
        obtain rfl : d = c := Option.some.inj first
        exact not_continuesIdentifier_of_isLineBreak (all d List.mem_cons_self)
  have skipped : (breaks ++ '\x7d' :: rest).dropWhile isLineBreak = '\x7d' :: rest := by
    rw [List.dropWhile_append_of_pos all]
    exact List.dropWhile_cons_of_neg (by decide)
  rw [readEntryExpression, afterPattern?_append]
  simp only [Option.bind_eq_bind, Option.bind_some, readAccess, skipped,
    readIdentifier_append identifier ends]
  rfl

theorem readEntryExpression_scriptLiteral (name : String) (rest : List Char) :
    readEntryExpression
        ("\x7bentry.data".toList ++ '[' :: ((scriptLiteral name).toList ++ ']' :: '\x7d' :: rest)) =
      some (name, rest) := by
  rw [readEntryExpression, afterPattern?_append]
  simp only [Option.bind_eq_bind, Option.bind_some, readAccess, readLiteral_scriptLiteral]
  rfl

theorem readEntryExpression_entryExpression {name : String} (noFeed : ¬ IsFedName name)
    (rest : List Char) :
    readEntryExpression ((entryExpression name).toList ++ rest) = some (name, rest) := by
  rw [entryExpression]
  split
  case isTrue bare =>
    have identifier := (isBareKey_iff.mp bare).resolve_right noFeed
    have read := @readEntryExpression_bareName name identifier [] (by simp) rest
    simpa using read
  case isFalse =>
    have read := readEntryExpression_scriptLiteral name rest
    simpa using read

theorem readEntryExpression_fed {identifier : String} (plain : IsBareName identifier)
    (rest : List Char) :
    readEntryExpression ((entryExpression (identifier ++ "\n")).toList ++ rest) =
      some (identifier, rest) := by
  have bare : isBareKey (identifier ++ "\n").toList = true :=
    isBareKey_iff.mpr (.inr ⟨identifier, plain, rfl⟩)
  have feed : ∀ c ∈ ['\n'], isLineBreak c = true := List.forall_mem_singleton.mpr rfl
  have read := @readEntryExpression_bareName identifier plain ['\n'] feed rest
  rw [entryExpression, if_pos bare]
  simpa using read

/-- A key on one line that names a member and nothing else: an identifier, or the literal of a name
that is none. -/
structure IsKeyOf (key name : String) : Prop where
  single : IsOneLine key
  form : IsBareName name ∧ key = name ∨ ¬ IsBareName name ∧ key = scriptLiteral name
  read : ∀ rest : List Char, (∀ c ∈ rest.head?, continuesIdentifier c = false) →
    readKey (key.toList ++ rest) = some (name, rest)

theorem objectKey_isKeyOf_iff {name : String} :
    IsKeyOf (objectKey name) name ↔ ¬ IsFedName name := by
  constructor
  · intro key fed
    have single := key.single
    rw [objectKey_of_fed fed] at single
    exact fed.not_isOneLine single
  · intro noFeed
    refine ⟨isOneLine_objectKey noFeed, objectKey_cases noFeed, fun rest ends => ?_⟩
    rcases objectKey_cases noFeed with ⟨identifier, bare⟩ | ⟨-, quoted⟩
    · rw [bare, readKey_bareName identifier ends]
    · rw [quoted, readKey_scriptLiteral]

theorem not_isBareKey_scriptLiteral (name : String) :
    isBareKey (scriptLiteral name).toList = false := by
  rw [scriptLiteral, String.toList_ofList]
  rfl

theorem objectKey_injective : Function.Injective objectKey := by
  intro first second same
  rw [objectKey, objectKey] at same
  split at same <;> split at same
  case isTrue.isTrue => exact same
  case isTrue.isFalse bare _ => simp [same, not_isBareKey_scriptLiteral] at bare
  case isFalse.isTrue _ bare => simp [← same, not_isBareKey_scriptLiteral] at bare
  case isFalse.isFalse => exact scriptLiteral_injective same

theorem mem_objectKey_iff {c : Char} (separates : isSeparator c = true) (name : String) :
    c ∈ (objectKey name).toList ↔ c ∈ name.toList := by
  rw [objectKey]
  split
  case isTrue => exact Iff.rfl
  case isFalse => exact mem_scriptLiteral_iff separates name

/--
The key of a name stands on one line and names a member called exactly so, and the expression for a
member of an entry reads that member, unless the name is an identifier with a line feed after it.
Such a name is written without quotes, too, and so the key and the expression are read as those of
the identifier.  Keys of different names differ, and hold a separator just if their names do.
-/
theorem objectKey_names_exactly_iff (name : String) (rest : List Char) :
    (IsKeyOf (objectKey name) name ↔ ¬ IsFedName name) ∧
    (readEntryExpression ((entryExpression name).toList ++ rest) = some (name, rest) ↔
      ¬ IsFedName name) ∧
    (∀ identifier, IsBareName identifier → name = identifier ++ "\n" →
      readKey ((objectKey name).toList ++ rest) = some (identifier, '\n' :: rest) ∧
      readEntryExpression ((entryExpression name).toList ++ rest) = some (identifier, rest)) ∧
    (∀ other, objectKey other = objectKey name ↔ other = name) ∧
    ∀ c, isSeparator c = true → (c ∈ (objectKey name).toList ↔ c ∈ name.toList) := by
  refine ⟨objectKey_isKeyOf_iff, ⟨fun read fed => ?_, fun noFeed =>
    readEntryExpression_entryExpression noFeed rest⟩, ?_, fun other => objectKey_injective.eq_iff,
    fun c separates => mem_objectKey_iff separates name⟩
  · obtain ⟨identifier, plain, rfl⟩ := fed
    rw [readEntryExpression_fed plain, Option.some.injEq, Prod.mk.injEq] at read
    simpa using congrArg String.length read.1
  · rintro identifier plain rfl
    refine ⟨?_, readEntryExpression_fed plain rest⟩
    have read := @readKey_bareName identifier plain ('\n' :: rest) (by simp; decide)
    rw [objectKey_of_fed ⟨identifier, plain, rfl⟩]
    simpa using read

theorem objectKey_names_exactly_iff_sku :
    IsBareName "sku" ∧ isSeparator '\u2028' = true ∧ ¬ IsFedName "it's\n" ∧
      IsKeyOf "'it\\'s\\n'" "it's\n" ∧
      readEntryExpression "\x7bentry.data['it\\'s\\n']\x7d</h1>".toList =
        some ("it's\n", "</h1>".toList) ∧
      readKey "sku\n: z.string()".toList = some ("sku", "\n: z.string()".toList) ∧
      readEntryExpression "\x7bentry.data.sku\n\x7d</h1>".toList = some ("sku", "</h1>".toList) ∧
      '\u2028' ∈ (objectKey "sku\u2028").toList := by
  have plain : IsBareName "sku" := by decide +kernel
  have separates : isSeparator '\u2028' = true := by decide
  have noFeed : ¬ IsFedName "it's\n" := by decide +kernel
  have quoted : objectKey "it's\n" = "'it\\'s\\n'" ∧
      entryExpression "it's\n" = "\x7bentry.data['it\\'s\\n']\x7d" := by
    decide +kernel
  have bare : objectKey ("sku" ++ "\n") = "sku\n" ∧
      entryExpression ("sku" ++ "\n") = "\x7bentry.data.sku\n\x7d" := by
    decide +kernel
  obtain ⟨isKeyOf_iff, read_iff, -⟩ := objectKey_names_exactly_iff "it's\n" "</h1>".toList
  have key := isKeyOf_iff.mpr noFeed
  have read := read_iff.mpr noFeed
  have readKeyFed := ((objectKey_names_exactly_iff ("sku" ++ "\n") ": z.string()".toList).2.2.1
    "sku" plain rfl).1
  have readFed := ((objectKey_names_exactly_iff ("sku" ++ "\n") "</h1>".toList).2.2.1
    "sku" plain rfl).2
  have separators := (objectKey_names_exactly_iff "sku\u2028" []).2.2.2.2 _ separates
  rw [quoted.1] at key
  rw [quoted.2] at read
  rw [bare.1] at readKeyFed
  rw [bare.2] at readFed
  exact ⟨plain, separates, noFeed, key, read, readKeyFed, readFed,
    separators.mpr (by decide +kernel)⟩

/-- The line feed after an identifier breaks the line of its key and is lost from the name. -/
theorem objectKey_broken_sku :
    objectKey "sku\n" = "sku\n" ∧ ¬ IsKeyOf (objectKey "sku\n") "sku\n" ∧
      readKey ((objectKey "sku\n").toList ++ [':']) = some ("sku", ['\n', ':']) ∧
      readEntryExpression (entryExpression "sku\n").toList = some ("sku", []) := by
  refine ⟨by decide +kernel, fun key => ?_, by decide +kernel, by decide +kernel⟩
  exact absurd (key.single '\n' (by decide +kernel)) (by decide)

end SchemaArtifacts.Escape
