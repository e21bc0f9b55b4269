import SchemaArtifacts.Naming.Case
import SchemaArtifacts.Naming.Identifier
import SchemaArtifacts.Proofs.Text.Lines
import SchemaArtifacts.Proofs.Text.Reading

/-!
# Characters of identifiers

An identifier in snake, camel or pascal style is written with plain letters, digits and underscores,
whatever the name it is made from.
-/

namespace SchemaArtifacts.Naming

open Text

def isNameChar (c : Char) : Bool := isAsciiLetter c || isAsciiDigit c || c == '_'

theorem toNat_lt_of_isNameChar {c : Char} (plain : isNameChar c = true) : c.toNat < 0x80 := by
  simp [isNameChar, isAsciiLetter, isAsciiDigit, Char.le_def, UInt32.le_iff_toNat_le] at plain
  rcases plain with ((h | h) | h) | rfl
  · omega
  · omega
  · omega
  · decide

theorem isNameChar.of_ascii {c : Char} {p : Char → Prop} (plain : isNameChar c = true)
    (all : ∀ n : Fin 128, isNameChar (Char.ofNat n) = true → p (Char.ofNat n)) : p c := by
  have found := all ⟨c.toNat, toNat_lt_of_isNameChar plain⟩
  rw [Char.ofNat_toNat] at found
  exact found plain

theorem isNameChar_toLower {c : Char} (plain : isNameChar c = true) :
    isNameChar c.toLower = true :=
  isNameChar.of_ascii plain (p := fun c => isNameChar c.toLower = true) (by decide)

theorem isNameChar_toUpper {c : Char} (plain : isNameChar c = true) :
    isNameChar c.toUpper = true :=
  isNameChar.of_ascii plain (p := fun c => isNameChar c.toUpper = true) (by decide)

def IsPlain (cs : List Char) : Prop := ∀ c ∈ cs, isNameChar c = true

instance (cs : List Char) : Decidable (IsPlain cs) :=
  decidable_of_iff (cs.all isNameChar = true) List.all_eq_true

namespace IsPlain

variable {cs : List Char}

theorem of_subset {others : List Char} (plain : IsPlain cs) (subset : others ⊆ cs) :
    IsPlain others :=
  fun _ mem => plain _ (subset mem)

theorem append {others : List Char} (plain : IsPlain cs) (rest : IsPlain others) :
    IsPlain (cs ++ others) := by
  intro c mem
  rcases List.mem_append.mp mem with mem | mem
  · exact plain c mem
  · exact rest c mem

theorem flatMap {α : Type} {write : α → List Char} {items : List α}
    (plain : ∀ item ∈ items, IsPlain (write item)) : IsPlain (items.flatMap write) := by
  intro c mem
  obtain ⟨item, found, mem⟩ := List.mem_flatMap.mp mem
  exact plain item found c mem

theorem ascii (plain : IsPlain cs) : ∀ c ∈ cs, c.toNat < 0x80 :=
  fun c mem => toNat_lt_of_isNameChar (plain c mem)

theorem isUnbroken {s : String} (plain : IsPlain s.toList) : IsUnbroken s :=
  fun breaks => absurd (plain _ breaks) (by decide)

theorem map_toLower (plain : IsPlain cs) : IsPlain (cs.map Char.toLower) := by
  intro c mem
  obtain ⟨other, found, rfl⟩ := List.mem_map.mp mem
  exact isNameChar_toLower (plain other found)

theorem lowerChars (plain : IsPlain cs) : IsPlain (lowerChars cs) := by
  rw [lowerChars_ascii plain.ascii]
  exact plain.map_toLower

theorem capitalizeChars (plain : IsPlain cs) : IsPlain (capitalizeChars cs) := by
  cases cs with
  | nil => exact plain
  | cons c rest =>
      have first := plain c List.mem_cons_self
      have others : IsPlain rest := plain.of_subset (List.subset_cons_self c rest)
      rw [capitalizeChars_ascii plain.ascii]
      intro d mem
      rcases List.mem_cons.mp mem with rfl | mem
      · exact isNameChar_toUpper first
      · exact others.map_toLower d mem

theorem splitWords (plain : IsPlain cs) : IsPlain (splitWords cs) := by
  fun_induction Naming.splitWords cs with
  | case1 => exact plain
  | case2 c => exact plain
  | case3 c next rest splits ih =>
      have later := ih (plain.of_subset (List.subset_cons_self _ _))
      intro d mem
      rcases List.mem_cons.mp mem with rfl | mem
      · exact plain d List.mem_cons_self
      rcases List.mem_cons.mp mem with rfl | mem
      · rfl
      · exact later d mem
  | case4 c next rest whole ih =>
      have later := ih (plain.of_subset (List.subset_cons_self _ _))
      intro d mem
      rcases List.mem_cons.mp mem with rfl | mem
      · exact plain d List.mem_cons_self
      · exact later d mem

end IsPlain

theorem mergeUnderscores_subset (cs : List Char) : mergeUnderscores cs ⊆ cs := by
  fun_induction mergeUnderscores cs with
  | case1 => exact List.Subset.refl _
  | case2 c => exact List.Subset.refl _
  | case3 c next rest merges ih => exact List.Subset.trans ih (List.subset_cons_self c _)
  | case4 c next rest apart ih => exact List.cons_subset_cons c ih

def dropEnds (p : Char → Bool) (cs : List Char) : List Char :=
  ((cs.dropWhile p).reverse.dropWhile p).reverse

theorem dropEnds_subset (p : Char → Bool) (cs : List Char) : dropEnds p cs ⊆ cs := by
  intro c mem
  have inside := (List.dropWhile_sublist p).mem (List.mem_reverse.mp mem)
  exact (List.dropWhile_sublist p).mem (List.mem_reverse.mp inside)

theorem isIdentifierChar_of_mem_trimFiller {cs : List Char} {c : Char}
    (mem : c ∈ trimFiller (cs.map fun c => if isIdentifierChar c then c else '_')) :
    isIdentifierChar c = true := by
  obtain ⟨other, -, rfl⟩ := List.mem_map.mp (dropEnds_subset isFiller _ mem)
  split
  · assumption
  · rfl

theorem isIdentifierChar_of_mem_cleanChars {cs : List Char} {c : Char} (mem : c ∈ cleanChars cs) :
    isIdentifierChar c = true := by
  have trimmed := fun d => @isIdentifierChar_of_mem_trimFiller cs d
  rw [cleanChars] at mem
  cases found : trimFiller (cs.map fun c => if isIdentifierChar c then c else '_') with
  | nil =>
      rw [found] at mem
      have all : (guardDigit []).all isIdentifierChar = true := by decide
      exact List.all_eq_true.mp all c mem
  | cons first rest =>
      rw [found] at mem trimmed
      rw [guardDigit] at mem
      split at mem
      · rcases List.mem_cons.mp mem with rfl | mem
        · rfl
        · exact trimmed c mem
      · exact trimmed c mem

theorem isPlain_snakeChars {cs : List Char} (cleaned : ∀ c ∈ cs, isIdentifierChar c = true) :
    IsPlain (snakeChars cs) := by
  have underscores : IsPlain (cs.map fun c => if c = '-' then '_' else c) := by
    intro c mem
    obtain ⟨other, found, rfl⟩ := List.mem_map.mp mem
    split
    case isTrue => rfl
    case isFalse plain =>
      have := cleaned other found
      simp_all [isIdentifierChar, isNameChar]
  have lowered := underscores.splitWords.lowerChars
  exact lowered.of_subset (List.Subset.trans (dropEnds_subset _ _) (mergeUnderscores_subset _))

theorem isPlain_of_mem_words {cs word : List Char} (cleaned : ∀ c ∈ cs, isIdentifierChar c = true)
    (mem : word ∈ words cs) : IsPlain word :=
  fun c inside => isPlain_snakeChars cleaned c (mem_and_ne_of_mem_splitOn mem inside).1

theorem isPlain_convert_clean {style : CaseStyle} (noKebab : style ≠ .kebab) (name : String) :
    IsPlain (convert style (clean name)).toList := by
  have cleaned : ∀ c ∈ cleanChars name.toList, isIdentifierChar c = true :=
    fun c mem => isIdentifierChar_of_mem_cleanChars mem
  have parts : ∀ word ∈ words (cleanChars name.toList), IsPlain word :=
    fun word mem => isPlain_of_mem_words cleaned mem
  rw [convert, clean, String.toList_ofList, String.toList_ofList]
  cases style with
  | snake => exact isPlain_snakeChars cleaned
  | camel =>
      rw [convertChars, camelChars]
      cases found : words (cleanChars name.toList) with
      | nil => exact absurd found (List.splitOn_ne_nil _ _)
      | cons first others =>
          rw [found] at parts
          have start := (parts first List.mem_cons_self).lowerChars
          exact start.append (.flatMap fun word mem =>
            (parts word (List.mem_cons_of_mem _ mem)).capitalizeChars)
  | pascal => exact .flatMap fun word mem => (parts word mem).capitalizeChars
  | kebab => exact absurd rfl noKebab

theorem ascii_convert_clean (style : CaseStyle) (name : String) :
    ∀ c ∈ (convert style (clean name)).toList, c.toNat < 0x80 := by
  by_cases kebab : style = .kebab
  · subst kebab
    have plain : IsPlain (snakeChars (cleanChars name.toList)) :=
      isPlain_snakeChars fun c mem => isIdentifierChar_of_mem_cleanChars mem
    intro c mem
    simp only [convert, clean, convertChars, kebabChars, String.toList_ofList] at mem
    obtain ⟨other, found, rfl⟩ := List.mem_map.mp mem
    split
    · decide
    · exact plain.ascii other found
  · exact (isPlain_convert_clean kebab name).ascii

theorem underscore_not_mem_pascal (name : String) :
    '_' ∉ (convert .pascal (clean name)).toList := by
  rw [convert, clean, String.toList_ofList, String.toList_ofList, convertChars, pascalChars]
  intro mem
  obtain ⟨word, found, mem⟩ := List.mem_flatMap.mp mem
  have plain : IsPlain word :=
    isPlain_of_mem_words (fun c mem => isIdentifierChar_of_mem_cleanChars mem) found
  have apart : ∀ c ∈ word, c ≠ '_' := fun c mem => (mem_and_ne_of_mem_splitOn found mem).2
  cases word with
  | nil => cases mem
  | cons c rest =>
      rw [capitalizeChars_ascii plain.ascii] at mem
      rcases List.mem_cons.mp mem with same | mem
      · exact isNameChar.of_ascii (plain c List.mem_cons_self)
          (p := fun c => c ≠ '_' → '_' ≠ c.toUpper) (by decide) (apart c List.mem_cons_self) same
      · obtain ⟨d, inside, same⟩ := List.mem_map.mp mem
        have inside := List.mem_cons_of_mem c inside
        exact isNameChar.of_ascii (plain d inside)
          (p := fun c => c ≠ '_' → c.toLower ≠ '_') (by decide) (apart d inside) same

def readNamed? (start ending : String) (line : List Char) : Option String := do
  let cs ← afterPattern? start.toList line
  if cs.dropWhile isNameChar = ending.toList then some (String.ofList (cs.takeWhile isNameChar))
  else none

theorem readNamed?_append {start name ending : String} (plain : IsPlain name.toList)
    (ends : ∀ c ∈ ending.toList.head?, isNameChar c = false) :
    readNamed? start ending (start ++ name ++ ending).toList = some name := by
  obtain ⟨taken, left⟩ := span_append plain ends
  rw [String.toList_append, String.toList_append, List.append_assoc, readNamed?,
    afterPattern?_append]
  simp only [Option.bind_eq_bind, Option.bind_some, taken, left, if_true, String.ofList_toList]

end SchemaArtifacts.Naming
