import SchemaArtifacts.Proofs.Escape.Delimited
import SchemaArtifacts.Proofs.Prisma.Mapping

/-!
# Literals as defaults

A default that is one literal of SQL, with a cast behind it or none, becomes a literal of the data
model, and both are read as the same text.  The literal of SQL ends at the last quote that only a
cast follows; since no cast holds a quote, that is the quote that closes it.
-/

namespace SchemaArtifacts.Prisma

open Escape Naming Text

theorem isCast_eq_true_iff {cs : List Char} :
    isCast cs = true ↔
      cs = [] ∨ ∃ name, name ≠ [] ∧ (∀ c ∈ name, isWord c = true) ∧ cs = ':' :: ':' :: name := by
  constructor
  · intro casts
    unfold isCast at casts
    split at casts
    case h_1 => exact .inl rfl
    case h_2 c rest =>
      exact .inr ⟨c :: rest, List.cons_ne_nil c rest, List.all_eq_true.mp casts, rfl⟩
    case h_3 => cases casts
  · rintro (rfl | ⟨name, nonempty, words, rfl⟩)
    · rfl
    · obtain ⟨c, rest, rfl⟩ := List.exists_cons_of_ne_nil nonempty
      exact List.all_eq_true.mpr words

/-- Nothing, or a cast to a type that is named by one word. -/
def IsCast (cast : String) : Prop :=
  cast = "" ∨
    ∃ name : String, name ≠ "" ∧ (∀ c ∈ name.toList, isWord c = true) ∧ cast = "::" ++ name

theorem isCast_iff {cast : String} : IsCast cast ↔ isCast cast.toList = true := by
  rw [isCast_eq_true_iff, IsCast, String.toList_eq_nil_iff]
  refine or_congr_right ⟨?_, ?_⟩
  · rintro ⟨name, nonempty, words, rfl⟩
    exact ⟨name.toList, by simpa using nonempty, words, by simp⟩
  · rintro ⟨name, nonempty, words, chars⟩
    refine ⟨String.ofList name, by simpa using nonempty, by simpa using words, ?_⟩
    rw [← String.toList_inj, chars]
    simp

instance (cast : String) : Decidable (IsCast cast) := decidable_of_iff _ isCast_iff.symm

theorem mem_of_isCast {cs : List Char} (casts : isCast cs = true) {c : Char} (mem : c ∈ cs) :
    c = ':' ∨ isWord c = true := by
  rcases isCast_eq_true_iff.mp casts with rfl | ⟨name, -, words, rfl⟩
  · cases mem
  · simp only [List.mem_cons] at mem
    rcases mem with colon | colon | mem
    · exact .inl colon
    · exact .inl colon
    · exact .inr (words c mem)

theorem quote_not_mem_of_isCast {cs : List Char} (casts : isCast cs = true) : '\'' ∉ cs := by
  intro mem
  rcases mem_of_isCast casts mem with colon | word
  · exact absurd colon (by decide)
  · exact absurd word (by decide)

theorem isBlank_of_mem_cast {cs : List Char} (casts : isCast cs = true) {c : Char} (mem : c ∈ cs) :
    isBlank c = false := by
  rcases mem_of_isCast casts mem with rfl | word
  · decide
  · exact isBlank_of_isWord word

theorem literalBody?_of_not_mem {cs : List Char} (unquoted : '\'' ∉ cs) :
    literalBody? cs = none := by
  induction cs with
  | nil => rfl
  | cons c rest ih =>
      rw [List.mem_cons, not_or] at unquoted
      simp [literalBody?, ih unquoted.2, Ne.symm unquoted.1]

theorem literalBody?_eq_some_iff {cs body : List Char} :
    literalBody? cs = some body ↔ ∃ cast, isCast cast = true ∧ cs = body ++ '\'' :: cast := by
  constructor
  · intro read
    fun_induction literalBody? cs generalizing body with
    | case1 => cases read
    | case2 c rest inner found ih =>
        cases read
        obtain ⟨cast, casts, rfl⟩ := ih found
        exact ⟨cast, casts, rfl⟩
    | case3 c rest none closes =>
        cases read
        simp only [Bool.and_eq_true, decide_eq_true_eq] at closes
        obtain ⟨rfl, casts⟩ := closes
        exact ⟨rest, casts, rfl⟩
    | case4 => cases read
  · rintro ⟨cast, casts, rfl⟩
    induction body with
    | nil => simp [literalBody?, literalBody?_of_not_mem (quote_not_mem_of_isCast casts), casts]
    | cons c rest ih => simp [literalBody?, ih]

theorem literal?_eq_some_iff {cs body : List Char} :
    literal? cs = some body ↔ ∃ cast, isCast cast = true ∧ cs = '\'' :: body ++ '\'' :: cast := by
  unfold literal?
  split
  case h_1 rest => simp [literalBody?_eq_some_iff]
  case h_2 unquoted =>
    simp only [reduceCtorEq, false_iff, not_exists, not_and]
    exact fun cast _ quoted => unquoted _ quoted

theorem undoubleQuotes_doubled (cs : List Char) : undoubleQuotes (doubled '\'' cs) = cs := by
  induction cs with
  | nil => rfl
  | cons c rest ih =>
      by_cases quote : c = '\''
      · subst quote
        have twice : doubled '\'' ('\'' :: rest) = '\'' :: '\'' :: doubled '\'' rest := by
          simp [doubled]
        rw [twice, undoubleQuotes, ih]
      · have once : doubled '\'' (c :: rest) = c :: doubled '\'' rest := by simp [doubled, quote]
        rw [once, undoubleQuotes, ih]
        exact fun _ same _ => absurd same quote

def IsDigits (cs : List Char) : Prop := cs ≠ [] ∧ ∀ c ∈ cs, isDecimalDigit c = true

def IsFraction (cs : List Char) : Prop := cs = [] ∨ ∃ digits, IsDigits digits ∧ cs = '.' :: digits

def IsNumber (s : String) : Prop :=
  ∃ sign whole fraction, (sign = [] ∨ sign = ['-']) ∧ IsDigits whole ∧ IsFraction fraction ∧
    s.toList = sign ++ whole ++ fraction

theorem isNumberTail_append {digits fraction : List Char}
    (all : ∀ c ∈ digits, isDecimalDigit c = true) (fractional : IsFraction fraction) :
    isNumberTail (digits ++ fraction) = true := by
  have point : isDecimalDigit '.' = false := by decide
  rw [isNumberTail, List.dropWhile_append_of_pos all]
  rcases fractional with rfl | ⟨more, ⟨nonempty, digital⟩, rfl⟩
  · rfl
  · obtain ⟨d, rest, rfl⟩ := List.exists_cons_of_ne_nil nonempty
    rw [List.dropWhile_cons_of_neg (by simp [point])]
    exact List.all_eq_true.mpr digital

theorem exists_of_isNumberTail {cs : List Char} (tail : isNumberTail cs = true) :
    ∃ digits fraction, (∀ c ∈ digits, isDecimalDigit c = true) ∧ IsFraction fraction ∧
      cs = digits ++ fraction := by
  refine ⟨cs.takeWhile isDecimalDigit, cs.dropWhile isDecimalDigit,
    List.all_eq_true.mp List.all_takeWhile, ?_, List.takeWhile_append_dropWhile.symm⟩
  unfold isNumberTail at tail
  split at tail
  case h_1 whole => exact .inl whole
  case h_2 d rest pointed =>
    exact .inr ⟨d :: rest, ⟨List.cons_ne_nil d rest, List.all_eq_true.mp tail⟩, pointed⟩
  case h_3 => cases tail

theorem isNumber_of_sign {sign : List Char} (signed : sign = [] ∨ sign = ['-']) {d : Char}
    (digit : isDecimalDigit d = true) {rest : List Char} (tail : isNumberTail rest = true) :
    isNumber (sign ++ d :: rest) = true := by
  have unsigned : d ≠ '-' := by
    rintro rfl
    exact absurd digit (by decide)
  rcases signed with rfl | rfl
  · simp [isNumber, unsigned, digit, tail]
  · simp [isNumber, digit, tail]

theorem exists_of_isNumber {cs : List Char} (number : isNumber cs = true) :
    ∃ sign d rest, (sign = [] ∨ sign = ['-']) ∧ isDecimalDigit d = true ∧
      isNumberTail rest = true ∧ cs = sign ++ d :: rest := by
  simp only [isNumber] at number
  split at number
  case h_1 => cases number
  case h_2 d rest body =>
    obtain ⟨digit, tail⟩ := Bool.and_eq_true_iff.mp number
    split at body
    case h_1 signed => exact ⟨['-'], d, rest, .inr rfl, digit, tail, by rw [body]; rfl⟩
    case h_2 => exact ⟨[], d, rest, .inl rfl, digit, tail, body⟩

theorem isNumber_iff {s : String} : IsNumber s ↔ isNumber s.toList = true := by
  constructor
  · rintro ⟨sign, whole, fraction, signed, ⟨nonempty, digital⟩, fractional, chars⟩
    obtain ⟨d, rest, rfl⟩ := List.exists_cons_of_ne_nil nonempty
    obtain ⟨digit, all⟩ := List.forall_mem_cons.mp digital
    rw [chars, List.append_assoc, List.cons_append]
    exact isNumber_of_sign signed digit (isNumberTail_append all fractional)
  · intro number
    obtain ⟨sign, d, rest, signed, digit, tail, chars⟩ := exists_of_isNumber number
    obtain ⟨digits, fraction, all, fractional, rfl⟩ := exists_of_isNumberTail tail
    have digital : IsDigits (d :: digits) :=
      ⟨List.cons_ne_nil d digits, List.forall_mem_cons.mpr ⟨digit, all⟩⟩
    exact ⟨sign, d :: digits, fraction, signed, digital, fractional, by simp [chars]⟩

instance (s : String) : Decidable (IsNumber s) := decidable_of_iff _ isNumber_iff.symm

/-! ## Expressions without a word of the data model -/

structure HasNoWord (value : String) : Prop where
  identifier : lower value ∉ identifierCalls
  time : lower value ∉ timeCalls
  truth : lower value ≠ "true" ∧ lower value ≠ "false"
  number : ¬ IsNumber value

theorem hasNoWord_iff {value : String} :
    HasNoWord value ↔ lower value ∉ identifierCalls ∧ lower value ∉ timeCalls ∧
      (lower value ≠ "true" ∧ lower value ≠ "false") ∧ ¬ IsNumber value := by
  constructor
  · rintro ⟨identifier, time, truth, number⟩
    exact ⟨identifier, time, truth, number⟩
  · rintro ⟨identifier, time, truth, number⟩
    exact ⟨identifier, time, truth, number⟩

instance (value : String) : Decidable (HasNoWord value) := decidable_of_iff _ hasNoWord_iff.symm

theorem Default.ofSql_of_hasNoWord {sql : String} (wordless : HasNoWord (trim sql)) :
    Default.ofSql sql =
      match literal? (trim sql).toList with
      | some body => literal (String.ofList (undoubleQuotes body))
      | none => expression (trim sql) := by
  obtain ⟨identifier, time, truth, number⟩ := wordless
  have known : (lower (trim sql) = "true" || lower (trim sql) = "false" ||
      isNumber (trim sql).toList) = false := by
    rw [Bool.eq_false_iff.mpr (mt isNumber_iff.mpr number)]
    simp [truth]
  simp only [Default.ofSql, List.contains_iff_mem, if_neg identifier, if_neg time, known]
  rfl

theorem hasNoWord_of_quote {value : String} {rest : List Char}
    (quoted : value.toList = '\'' :: rest) : HasNoWord value := by
  have lowered : (lower value).toList.head? = some '\'' := by
    rw [lower, String.toList_ofList, quoted]
    rfl
  have other {word : String} (starts : word.toList.head? ≠ some '\'') : lower value ≠ word := by
    rintro rfl
    exact starts lowered
  have identifiers : ∀ call ∈ identifierCalls, call.toList.head? ≠ some '\'' := by decide
  have times : ∀ call ∈ timeCalls, call.toList.head? ≠ some '\'' := by decide
  have noDigit : isDecimalDigit '\'' = false := by decide
  constructor
  case identifier => exact fun mem => identifiers _ mem lowered
  case time => exact fun mem => times _ mem lowered
  case truth => exact ⟨other (by decide), other (by decide)⟩
  case number =>
    rw [isNumber_iff, quoted]
    simp [isNumber, noDigit]

def readQuoted : Reader Char String
  | '"' :: cs => (readQuotedText cs).map fun (text, rest) => (String.ofList text, rest)
  | _ => none

theorem escapeText_eq (c : Char) :
    escapeText c = ['\\', c] ∧ (c = '\\' ∨ c = '"') ∨
      escapeText c = [c] ∧ c ≠ '"' ∧ c ≠ '\\' := by
  by_cases slash : c = '\\'
  · subst slash
    exact .inl (by decide)
  by_cases quote : c = '"'
  · subst quote
    exact .inl (by decide)
  · exact .inr ⟨by simp [escapeText, escapeQuote, slash, quote], quote, slash⟩

theorem readQuotedText_escapeText (c : Char) (cs : List Char) :
    readQuotedText (escapeText c ++ cs) =
      (readQuotedText cs).map fun (text, rest) => (c :: text, rest) := by
  rcases escapeText_eq c with ⟨written, escaped⟩ | ⟨written, noQuote, noSlash⟩
  · rw [written, List.cons_append, List.singleton_append, readQuotedText,
      if_pos (by simpa using escaped)]
  · rw [written, List.singleton_append, readQuotedText_cons noQuote noSlash]

theorem readQuotedText_flatMap (cs rest : List Char) :
    readQuotedText (cs.flatMap escapeText ++ '"' :: rest) = some (cs, rest) := by
  induction cs with
  | nil => rfl
  | cons c cs ih =>
      rw [List.flatMap_cons, List.append_assoc, readQuotedText_escapeText, ih]
      rfl

theorem readQuoted_literal (text : String) (rest : List Char) :
    readQuoted ((Default.literal text).text.toList ++ rest) = some (text, rest) := by
  have written : (Default.literal text).text.toList ++ rest =
      '"' :: (text.toList.flatMap escapeText ++ '"' :: rest) := by
    simp [Default.text]
  rw [written, readQuoted, readQuotedText_flatMap]
  simp only [Option.map_some, String.ofList_toList]

theorem toList_sqlString_append (text cast : String) :
    (sqlString text ++ cast).toList =
      '\'' :: doubled '\'' text.toList ++ '\'' :: cast.toList := by
  simp [sqlString, delimitedChars]

theorem sqlString_append_ne_empty (text cast : String) : sqlString text ++ cast ≠ "" := by
  rw [Ne, ← String.toList_inj, toList_sqlString_append]
  simp

theorem trim_sqlString_append (text : String) {cast : String} (casts : IsCast cast) :
    trim (sqlString text ++ cast) = sqlString text ++ cast := by
  rw [trim_eq_self_iff, toList_sqlString_append]
  have ends : ∀ c ∈ ('\'' :: cast.toList).getLast?, isBlank c = false := by
    intro c last
    rcases List.mem_cons.mp (List.mem_of_getLast? last) with rfl | mem
    · decide
    · exact isBlank_of_mem_cast (isCast_iff.mp casts) mem
  constructor
  · intro c first
    cases first
    decide
  · rwa [List.getLast?_append_cons]

theorem ofSql_sqlString (text : String) {cast : String} (casts : IsCast cast) :
    Default.ofSql (sqlString text ++ cast) = .literal text := by
  have trimmed := trim_sqlString_append text casts
  have chars := toList_sqlString_append text cast
  have wordless : HasNoWord (trim (sqlString text ++ cast)) := by
    rw [trimmed]
    exact hasNoWord_of_quote chars
  have read : literal? (sqlString text ++ cast).toList = some (doubled '\'' text.toList) :=
    literal?_eq_some_iff.mpr ⟨cast.toList, isCast_iff.mp casts, chars⟩
  rw [Default.ofSql_of_hasNoWord wordless, trimmed, read]
  simp only [undoubleQuotes_doubled, String.ofList_toList]

/--
The default of a literal of SQL, with a cast behind it or none, is a literal that is read as the
same text up to its last quote, whatever follows it.
-/
theorem literal_defaults_read_back (text : String) {cast : String} (casts : IsCast cast) :
    ∃ literal, defaultText? (sqlString text ++ cast) = some literal ∧
      ∀ rest, readQuoted (literal.toList ++ rest) = some (text, rest) := by
  refine ⟨(Default.literal text).text, ?_, readQuoted_literal text⟩
  rw [defaultText?, if_neg (sqlString_append_ne_empty text cast), ofSql_sqlString text casts]

/-- A text with quotes of both kinds, a backslash and what looks like a cast, before a cast. -/
theorem literal_defaults_read_back_quotes :
    IsCast "::text" ∧
      sqlString "it's 5\" \\'::text" ++ "::text" = "'it''s 5\" \\''::text'::text" ∧
      ∃ literal, defaultText? (sqlString "it's 5\" \\'::text" ++ "::text") = some literal ∧
        ∀ rest, readQuoted (literal.toList ++ rest) = some ("it's 5\" \\'::text", rest) :=
  ⟨by decide, by decide, literal_defaults_read_back _ (by decide)⟩

end SchemaArtifacts.Prisma
