import Mathlib.Data.List.Chain
import Mathlib.Data.List.Induction
import SchemaArtifacts.Proofs.Naming.Initials

/-!
# Shapes of identifiers

A cleaned name starts with a letter, or with the underscore that keeps a digit from the front, and
ends with a letter or digit.  In snake style it is made of words of small letters and digits, joined
by single underscores.  A name that has its shape already is left alone.
-/

namespace SchemaArtifacts.Naming

open Text

theorem exists_around_dropEnds (p : Char → Bool) (cs : List Char) :
    ∃ before after, before ++ (dropEnds p cs ++ after) = cs := by
  obtain ⟨before, start⟩ := List.dropWhile_suffix p (l := cs)
  obtain ⟨after, whole⟩ := List.rdropWhile_prefix p (l := cs.dropWhile p)
  exact ⟨before, after, (congrArg (before ++ ·) whole).trans start⟩

section Ends

variable {p : Char → Bool} {cs : List Char}

theorem head?_of_dropEnds {c : Char} (first : c ∈ (dropEnds p cs).head?) : p c = false := by
  rw [head?_dropEnds] at first
  simpa using List.find?_some first

theorem getLast?_of_dropEnds {c : Char} (last : c ∈ (dropEnds p cs).getLast?) : p c = false := by
  obtain ⟨before, kept⟩ := List.getLast?_eq_some_iff.mp last
  have stopped := List.rdropWhile_last_not p (cs.dropWhile p)
  rw [show List.rdropWhile p (cs.dropWhile p) = before ++ [c] from kept] at stopped
  simpa using stopped

theorem dropEnds_of_ends (starts : ∀ c ∈ cs.head?, p c = false)
    (ends : ∀ c ∈ cs.getLast?, p c = false) : dropEnds p cs = cs := by
  have start : cs.dropWhile p = cs := by
    cases cs with
    | nil => rfl
    | cons c rest => exact List.dropWhile_cons_of_neg (by simp [starts c rfl])
  have last : cs.rdropWhile p = cs := by
    refine List.rdropWhile_eq_self_iff.mpr fun kept => ?_
    simp [ends _ (List.getLast?_eq_some_getLast kept)]
  exact (congrArg (List.rdropWhile p) start).trans last

end Ends

inductive StartsName : List Char → Prop
  | letter {c : Char} {rest : List Char} (letter : isAsciiLetter c = true) : StartsName (c :: rest)
  | digit {c : Char} {rest : List Char} (digit : isAsciiDigit c = true) :
    StartsName ('_' :: c :: rest)

/-- A name that is written with the allowed characters, with a letter or a digit after an
underscore in front, and with neither an underscore nor a hyphen at its end. -/
structure IsCleaned (allowed : Char → Bool) (cs : List Char) : Prop where
  allows : ∀ c ∈ cs, allowed c = true
  starts : StartsName cs
  ends : ∀ c ∈ cs.getLast?, isFiller c = false

theorem isSign_of_isAsciiLetter {c : Char} (letter : isAsciiLetter c = true) : isSign c = true := by
  rw [isSign, letter, Bool.true_or]

theorem isSign_of_isAsciiDigit {c : Char} (digit : isAsciiDigit c = true) : isSign c = true := by
  rw [isSign, digit, Bool.or_true]

theorem isFiller_of_isSign {c : Char} (sign : isSign c = true) : isFiller c = false :=
  isSign.of_ascii sign (p := fun c => isFiller c = false) (by decide)

theorem isAsciiDigit_of_isAsciiLetter {c : Char} (letter : isAsciiLetter c = true) :
    isAsciiDigit c = false :=
  isSign.of_ascii (isSign_of_isAsciiLetter letter)
    (p := fun c => isAsciiLetter c = true → isAsciiDigit c = false) (by decide) letter

theorem letter_or_digit_of_not_isFiller {c : Char} (allowed : isIdentifierChar c = true)
    (sign : isFiller c = false) : isAsciiLetter c = true ∨ isAsciiDigit c = true := by
  rw [isFiller, Bool.or_eq_false_iff] at sign
  simpa [isIdentifierChar, sign.1, sign.2] using allowed

theorem isCleaned_guardDigit {cs : List Char} (allowed : ∀ c ∈ cs, isIdentifierChar c = true)
    (starts : ∀ c ∈ cs.head?, isFiller c = false) (ends : ∀ c ∈ cs.getLast?, isFiller c = false) :
    IsCleaned isIdentifierChar (guardDigit cs) := by
  cases cs with
  | nil =>
      have all : (guardDigit []).all isIdentifierChar = true := by decide
      have last : (guardDigit []).getLast? = some 'd' := rfl
      refine ⟨List.all_eq_true.mp all, .letter (c := 'f') rfl, ?_⟩
      rintro c ends
      obtain rfl : 'd' = c := Option.some.inj (last.symm.trans ends)
      rfl
  | cons c rest =>
      rw [guardDigit]
      split
      case isTrue digit =>
        refine ⟨List.forall_mem_cons.mpr ⟨rfl, allowed⟩, .digit digit, ?_⟩
        rwa [List.getLast?_cons_cons]
      case isFalse noDigit =>
        have sign := letter_or_digit_of_not_isFiller (allowed c List.mem_cons_self) (starts c rfl)
        exact ⟨allowed, .letter (sign.resolve_right noDigit), ends⟩

theorem isCleaned_cleanChars (cs : List Char) : IsCleaned isIdentifierChar (cleanChars cs) :=
  isCleaned_guardDigit (fun _ => isIdentifierChar_of_mem_trimFiller)
    (fun _ => head?_of_dropEnds) (fun _ => getLast?_of_dropEnds)

theorem cleanChars_of_isCleaned {cs : List Char} (cleaned : IsCleaned isIdentifierChar cs) :
    cleanChars cs = cs := by
  obtain ⟨allows, starts, ends⟩ := cleaned
  have kept : cs.map (fun c => if isIdentifierChar c then c else '_') = cs :=
    (List.map_congr_left fun c mem => if_pos (allows c mem)).trans (List.map_id' cs)
  rw [cleanChars, kept]
  cases starts with
  | @letter c rest letter =>
      have first := isFiller_of_isSign (isSign_of_isAsciiLetter letter)
      have trimmed : trimFiller (c :: rest) = c :: rest :=
        dropEnds_of_ends (by simpa using first) ends
      rw [trimmed, guardDigit, if_neg (by simp [isAsciiDigit_of_isAsciiLetter letter])]
  | @digit c rest digit =>
      have first := isFiller_of_isSign (isSign_of_isAsciiDigit digit)
      have trimmed : trimFiller ('_' :: c :: rest) = c :: rest :=
        @dropEnds_of_ends isFiller (c :: rest) (by simpa using first) (by simpa using ends)
      rw [trimmed, guardDigit, if_pos digit]

theorem map_hyphen_of_absent {cs : List Char} (absent : ∀ c ∈ cs, c ≠ '-') :
    cs.map (fun c => if c = '-' then '_' else c) = cs :=
  (List.map_congr_left fun c mem => if_neg (absent c mem)).trans (List.map_id' cs)

theorem StartsName.map_hyphen {cs : List Char} (starts : StartsName cs) :
    StartsName (cs.map fun c => if c = '-' then '_' else c) := by
  have kept {c : Char} (sign : isSign c = true) : (if c = '-' then '_' else c) = c := by
    refine if_neg ?_
    rintro rfl
    exact absurd sign (by decide)
  cases starts with
  | letter letter =>
      rw [List.map_cons, kept (isSign_of_isAsciiLetter letter)]
      exact .letter letter
  | digit digit =>
      rw [List.map_cons, List.map_cons, kept (isSign_of_isAsciiDigit digit)]
      exact .digit digit

theorem isCleaned_cleanPlain (name : String) : IsCleaned isNameChar (cleanPlain name).toList := by
  have chars : (cleanPlain name).toList =
      (cleanChars name.toList).map fun c => if c = '-' then '_' else c := String.toList_ofList
  obtain ⟨-, starts, ends⟩ := isCleaned_cleanChars name.toList
  refine ⟨isPlain_cleanPlain name, chars ▸ starts.map_hyphen, ?_⟩
  intro c last
  rw [chars, List.getLast?_map] at last
  obtain ⟨d, kept, rfl⟩ := Option.map_eq_some_iff.mp last
  have sign := ends d kept
  rw [if_neg]
  · exact sign
  · rintro rfl
    exact absurd sign (by decide)

theorem cleanPlainChars_of_isCleaned {cs : List Char} (cleaned : IsCleaned isNameChar cs) :
    cleanPlainChars cs = cs := by
  obtain ⟨allows, starts, ends⟩ := cleaned
  have wider : ∀ c ∈ cs, isIdentifierChar c = true := by
    intro c mem
    rw [isIdentifierChar, ← isNameChar, allows c mem, Bool.true_or]
  rw [cleanPlainChars, cleanChars_of_isCleaned ⟨wider, starts, ends⟩]
  apply map_hyphen_of_absent
  rintro c mem rfl
  exact absurd (allows _ mem) (by decide)

/-! ## Snake style -/

/-- Words of small letters and digits, joined by single underscores. -/
inductive IsSnake : List Char → Prop
  | word {word : List Char} (nonempty : word ≠ []) (plain : ∀ c ∈ word, endsWord c = true) :
    IsSnake word
  | join {word rest : List Char} (nonempty : word ≠ []) (plain : ∀ c ∈ word, endsWord c = true)
    (later : IsSnake rest) : IsSnake (word ++ '_' :: rest)

/-- Small letters and digits, and single underscores that are followed by one of these. -/
structure IsSpaced (cs : List Char) : Prop where
  plain : ∀ c ∈ cs, endsWord c = true ∨ c = '_'
  ends : ∀ c ∈ cs.getLast?, c ≠ '_'
  single : cs.IsChain fun c d => ¬ (c = '_' ∧ d = '_')

theorem IsSnake.cons {c : Char} {cs : List Char} (plain : endsWord c = true) (snake : IsSnake cs) :
    IsSnake (c :: cs) := by
  cases snake with
  | word _ later => exact .word (List.cons_ne_nil _ _) (List.forall_mem_cons.mpr ⟨plain, later⟩)
  | join _ later rest =>
      rw [← List.cons_append]
      exact .join (List.cons_ne_nil _ _) (List.forall_mem_cons.mpr ⟨plain, later⟩) rest

theorem IsSpaced.tail {c : Char} {cs : List Char} (spaced : IsSpaced (c :: cs)) : IsSpaced cs where
  plain := (List.forall_mem_cons.mp spaced.plain).2
  ends d last := spaced.ends d (by simp [List.getLast?_cons, Option.mem_def.mp last])
  single := (List.isChain_cons.mp spaced.single).2

theorem IsSpaced.isSnake {cs : List Char} (spaced : IsSpaced cs)
    (starts : ∀ c ∈ cs.head?, c ≠ '_') (nonempty : cs ≠ []) : IsSnake cs := by
  induction cs using List.twoStepInduction with
  | nil => exact absurd rfl nonempty
  | singleton c =>
      have plain := (spaced.plain c List.mem_cons_self).resolve_right (starts c rfl)
      exact .word nonempty (by simpa using plain)
  | cons_cons c d rest ih ih' =>
      have plain := (spaced.plain c List.mem_cons_self).resolve_right (starts c rfl)
      by_cases joins : d = '_'
      · subst joins
        have filled : rest ≠ [] := by
          rintro rfl
          exact spaced.ends '_' rfl rfl
        have follows : ∀ e ∈ rest.head?, e ≠ '_' := fun e first same =>
          (List.isChain_cons.mp spaced.tail.single).1 e first ⟨rfl, same⟩
        have later := ih spaced.tail.tail follows filled
        exact .join (List.cons_ne_nil c []) (by simpa using plain) later
      · have later := ih' d spaced.tail (by simpa using joins) (List.cons_ne_nil _ _)
        exact later.cons plain

theorem splitWords_of_small {cs : List Char} (small : ∀ c ∈ cs, startsWord c = false) :
    splitWords cs = cs := by
  fun_induction splitWords cs with
  | case1 => rfl
  | case2 c => rfl
  | case3 c next rest splits ih =>
      have capital := (Bool.and_eq_true_iff.mp splits).2
      rw [small next (by simp)] at capital
      cases capital
  | case4 c next rest whole ih => rw [ih (List.forall_mem_cons.mp small).2]

theorem head?_mergeUnderscores (cs : List Char) : (mergeUnderscores cs).head? = cs.head? := by
  fun_induction mergeUnderscores cs with
  | case1 => rfl
  | case2 c => rfl
  | case3 c next rest merges ih =>
      obtain ⟨rfl, rfl⟩ : c = '_' ∧ next = '_' := by simpa using merges
      rw [ih]
      rfl
  | case4 c next rest apart ih => rfl

theorem isChain_mergeUnderscores (cs : List Char) :
    (mergeUnderscores cs).IsChain fun c d => ¬ (c = '_' ∧ d = '_') := by
  fun_induction mergeUnderscores cs with
  | case1 => exact .nil
  | case2 c => exact .singleton c
  | case3 c next rest merges ih => exact ih
  | case4 c next rest apart ih =>
      refine List.isChain_cons.mpr ⟨?_, ih⟩
      intro d first
      rw [head?_mergeUnderscores] at first
      obtain rfl : next = d := Option.some.inj first
      simpa using apart

theorem mergeUnderscores_of_isChain {cs : List Char}
    (single : cs.IsChain fun c d => ¬ (c = '_' ∧ d = '_')) : mergeUnderscores cs = cs := by
  fun_induction mergeUnderscores cs with
  | case1 => rfl
  | case2 c => rfl
  | case3 c next rest merges ih =>
      have both : c = '_' ∧ next = '_' := by simpa using merges
      exact absurd both ((List.isChain_cons.mp single).1 next rfl)
  | case4 c next rest apart ih => rw [ih (List.isChain_cons.mp single).2]

theorem IsSpaced.snakeChars_eq {cs : List Char} (spaced : IsSpaced cs)
    (starts : ∀ c ∈ cs.head?, c ≠ '_') : snakeChars cs = cs := by
  have name : IsPlain cs := by
    intro c mem
    rcases spaced.plain c mem with small | rfl
    · rw [endsWord, Bool.or_eq_true] at small
      simp only [isNameChar, isAsciiLetter, Bool.or_eq_true]
      tauto
    · rfl
  have settled : ∀ c ∈ cs, c ≠ '-' ∧ startsWord c = false ∧ c.toLower = c := fun c mem =>
    isNameChar.of_ascii (name c mem) (p := fun c => endsWord c = true ∨ c = '_' →
      c ≠ '-' ∧ startsWord c = false ∧ c.toLower = c) (by decide) (spaced.plain c mem)
  have lower : cs.map Char.toLower = cs :=
    (List.map_congr_left fun c mem => (settled c mem).2.2).trans (List.map_id' cs)
  rw [snakeChars, map_hyphen_of_absent fun c mem => (settled c mem).1,
    splitWords_of_small fun c mem => (settled c mem).2.1, lowerChars_ascii name.ascii, lower,
    mergeUnderscores_of_isChain spaced.single]
  exact dropEnds_of_ends (by simpa using starts) (by simpa using spaced.ends)

theorem isSpaced_snakeChars (name : String) : IsSpaced (snakeChars (cleanChars name.toList)) := by
  have chars : ((cleanChars name.toList).map fun c => if c = '-' then '_' else c) =
      (cleanPlain name).toList := String.toList_ofList.symm
  have plain := (isPlain_cleanPlain name).splitWords
  rw [snakeChars, chars]
  refine ⟨?_, ?_, ?_⟩
  · intro c mem
    have lowered := mergeUnderscores_subset _ (dropEnds_subset _ _ mem)
    rw [lowerChars_ascii plain.ascii] at lowered
    obtain ⟨d, inside, rfl⟩ := List.mem_map.mp lowered
    exact isNameChar.of_ascii (plain d inside)
      (p := fun c => endsWord c.toLower = true ∨ c.toLower = '_') (by decide)
  · intro c last
    simpa using getLast?_of_dropEnds last
  · have single := isChain_mergeUnderscores (lowerChars (splitWords (cleanPlain name).toList))
    obtain ⟨before, after, whole⟩ := exists_around_dropEnds (· == '_')
      (mergeUnderscores (lowerChars (splitWords (cleanPlain name).toList)))
    rw [← whole] at single
    exact single.right_of_append.left_of_append

theorem ne_underscore_of_mem_head?_snakeChars {cs : List Char} {c : Char}
    (first : c ∈ (snakeChars cs).head?) : c ≠ '_' := by
  simpa using head?_of_dropEnds first

theorem isSnake_snakeChars (name : String) : IsSnake (snakeChars (cleanChars name.toList)) := by
  refine (isSpaced_snakeChars name).isSnake (fun _ => ne_underscore_of_mem_head?_snakeChars) ?_
  intro empty
  have first := head?_snakeChars name
  rw [empty] at first
  cases first

theorem snakeChars_snakeChars (name : String) :
    snakeChars (snakeChars (cleanChars name.toList)) = snakeChars (cleanChars name.toList) :=
  (isSpaced_snakeChars name).snakeChars_eq fun _ => ne_underscore_of_mem_head?_snakeChars

/--
A cleaned name has the shape of an identifier, with hyphens or without, and in snake style that of
words joined by underscores.  Each of these is left alone by what made it from the name.
-/
theorem cleaned_names_settled (name : String) :
    IsCleaned isIdentifierChar (clean name).toList ∧ clean (clean name) = clean name ∧
      IsCleaned isNameChar (cleanPlain name).toList ∧
      cleanPlain (cleanPlain name) = cleanPlain name ∧
      IsSnake (convert .snake (clean name)).toList ∧
      convert .snake (convert .snake (clean name)) = convert .snake (clean name) := by
  have cleaned : (clean name).toList = cleanChars name.toList := String.toList_ofList
  have snake : (convert .snake (clean name)).toList = snakeChars (cleanChars name.toList) := by
    rw [convert, String.toList_ofList, cleaned]
    rfl
  refine ⟨?_, ?_, isCleaned_cleanPlain name, ?_, ?_, ?_⟩
  · rw [cleaned]
    exact isCleaned_cleanChars _
  · rw [clean, cleaned, cleanChars_of_isCleaned (isCleaned_cleanChars _)]
    rfl
  · rw [cleanPlain, cleanPlainChars_of_isCleaned (isCleaned_cleanPlain name), String.ofList_toList]
  · rw [snake]
    exact isSnake_snakeChars name
  · calc convert .snake (convert .snake (clean name))
        = String.ofList (snakeChars (convert .snake (clean name)).toList) := rfl
      _ = String.ofList (snakeChars (cleanChars name.toList)) := by
          rw [snake, snakeChars_snakeChars]
      _ = convert .snake (clean name) := by rw [← snake, String.ofList_toList]

example : clean "-2nd Order--ID!" = "_2nd_Order--ID" ∧
    cleanPlain "-2nd Order--ID!" = "_2nd_Order__ID" ∧
    convert .snake (clean "-2nd Order--ID!") = "2nd_order_id" := by
  decide +kernel

end SchemaArtifacts.Naming
