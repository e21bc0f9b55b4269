import SchemaArtifacts.Proofs.Prisma.Literals

/-!
# Expressions as defaults

A default for which a data model has no word, and which is not one literal of SQL, is to be kept as
an expression of the database.  It is taken for a literal where it merely begins and ends like one,
as two literals do that are joined; and since only quotes are written after a backslash, an
expression with backslashes is read as another one, or not at all.
-/

namespace SchemaArtifacts.Prisma

open Escape Text

def IsSqlLiteral (value : String) : Prop :=
  ∃ text cast, IsCast cast ∧ value = sqlString text ++ cast

/-- A text between two quotes, with a cast behind them or none, whatever quotes are in the text. -/
def IsEnclosed (value : String) : Prop :=
  ∃ inner cast, IsCast cast ∧ value = "'" ++ inner ++ "'" ++ cast

/-- An expression that a data model can only leave to the database. -/
structure IsExpression (value : String) : Prop extends HasNoWord value where
  filled : value ≠ ""
  unquoted : ¬ IsSqlLiteral value

theorem isExpression_iff {value : String} :
    IsExpression value ↔ HasNoWord value ∧ value ≠ "" ∧ ¬ IsSqlLiteral value := by
  constructor
  · rintro ⟨wordless, filled, unquoted⟩
    exact ⟨wordless, filled, unquoted⟩
  · rintro ⟨wordless, filled, unquoted⟩
    exact ⟨wordless, filled, unquoted⟩

theorem isSqlLiteral_iff {value : String} :
    IsSqlLiteral value ↔ ((readString value.toList).any fun read => isCast read.2) = true := by
  rw [Option.any_eq_true]
  constructor
  · rintro ⟨text, cast, casts, rfl⟩
    have casts := isCast_iff.mp casts
    have ends : cast.toList.head? ≠ some '\'' := fun first =>
      quote_not_mem_of_isCast casts (List.mem_of_mem_head? first)
    exact ⟨_, by rw [String.toList_append, standsFor_sqlString text cast.toList ends], casts⟩
  · rintro ⟨⟨text, cast⟩, read, casts⟩
    unfold readString at read
    split at read
    case h_1 cs chars =>
      refine ⟨String.ofList text, String.ofList cast, isCast_iff.mpr (by simpa using casts), ?_⟩
      rw [← String.toList_inj, toList_sqlString_append, chars, eq_of_readDelimited read]
      simp
    case h_2 => cases read

instance (value : String) : Decidable (IsSqlLiteral value) :=
  decidable_of_iff _ isSqlLiteral_iff.symm

instance (value : String) : Decidable (IsExpression value) :=
  decidable_of_iff _ isExpression_iff.symm

theorem isEnclosed_iff {value : String} :
    IsEnclosed value ↔ ∃ body, literal? value.toList = some body := by
  simp only [literal?_eq_some_iff]
  constructor
  · rintro ⟨inner, cast, casts, rfl⟩
    exact ⟨inner.toList, cast.toList, isCast_iff.mp casts, by simp⟩
  · rintro ⟨body, cast, casts, chars⟩
    refine ⟨String.ofList body, String.ofList cast, isCast_iff.mpr (by simpa using casts), ?_⟩
    rw [← String.toList_inj, chars]
    simp

instance (value : String) : Decidable (IsEnclosed value) :=
  decidable_of_iff ((literal? value.toList).isSome = true)
    (Option.isSome_iff_exists.trans isEnclosed_iff.symm)

theorem count_of_readQuotedText {cs text rest : List Char}
    (read : readQuotedText cs = some (text, rest)) :
    cs.count '\\' = 2 * text.count '\\' + text.count '"' + rest.count '\\' := by
  fun_induction readQuotedText cs generalizing text rest with
  | case1 => cases read
  | case2 rest =>
      cases read
      simp
  | case3 c rest escape ih =>
      obtain ⟨⟨inner, _⟩, taken, same⟩ := Option.map_eq_some_iff.mp read
      cases same
      have counted := ih taken
      simp only [Bool.or_eq_true, decide_eq_true_eq] at escape
      rcases escape with rfl | rfl
      · simp
        omega
      · simp
        omega
  | case4 => cases read
  | case5 => cases read
  | case6 c rest noQuote noEscape noSlash ih =>
      obtain ⟨⟨inner, _⟩, taken, same⟩ := Option.map_eq_some_iff.mp read
      cases same
      have counted := ih taken
      have plain : c ≠ '"' := noQuote
      simp [noSlash, plain]
      omega

theorem count_flatMap_escapeQuote (cs : List Char) :
    (cs.flatMap escapeQuote).count '\\' = cs.count '\\' + cs.count '"' := by
  induction cs with
  | nil => rfl
  | cons c cs ih =>
      rw [List.flatMap_cons, List.count_append, ih]
      by_cases quote : c = '"'
      · subst quote
        simp [escapeQuote]
        omega
      · simp [escapeQuote, quote, List.count_cons]
        omega

theorem readQuotedText_escapeQuote_iff {cs : List Char} :
    readQuotedText (cs.flatMap escapeQuote ++ ['"']) = some (cs, []) ↔ '\\' ∉ cs := by
  constructor
  · intro read
    have counted := count_of_readQuotedText read
    rw [List.count_append, count_flatMap_escapeQuote] at counted
    have written : List.count '\\' ['"'] = 0 := by decide
    have nothing : List.count '\\' ([] : List Char) = 0 := rfl
    exact List.count_eq_zero.mp (by omega)
  · intro absent
    have same : cs.flatMap escapeQuote = cs.flatMap escapeText := by
      refine List.flatMap_congr fun c mem => ?_
      have plain : c ≠ '\\' := fun slash => absent (slash ▸ mem)
      rw [escapeText, if_neg plain]
    rw [same]
    exact readQuotedText_flatMap cs []

/-- The expression of the database that stands as an argument in a default. -/
def generatedBy (argument : String) : String := "dbgenerated(" ++ argument ++ ")"

theorem generatedBy_inj {argument other : String} :
    generatedBy argument = generatedBy other ↔ argument = other := by
  simp [generatedBy]

def expressionLiteral (value : String) : String :=
  "\"" ++ String.ofList (value.toList.flatMap escapeQuote) ++ "\""

theorem text_expression (value : String) :
    (Default.expression value).text = generatedBy (expressionLiteral value) := by
  simp [Default.text, generatedBy, expressionLiteral, ← String.toList_inj]

theorem text_literal_ne_generatedBy (body argument : String) :
    (Default.literal body).text ≠ generatedBy argument := by
  intro same
  have first : (Default.literal body).text.toList.head? = (generatedBy argument).toList.head? := by
    rw [same]
  simp [Default.text, generatedBy] at first

theorem readQuoted_expressionLiteral_iff {value : String} :
    readQuoted (expressionLiteral value).toList = some (value, []) ↔ '\\' ∉ value.toList := by
  have written : (expressionLiteral value).toList =
      '"' :: (value.toList.flatMap escapeQuote ++ ['"']) := by
    simp [expressionLiteral]
  rw [written, readQuoted, ← readQuotedText_escapeQuote_iff, Option.map_eq_some_iff]
  constructor
  · rintro ⟨⟨text, _⟩, read, same⟩
    cases same
    rw [read, String.toList_ofList]
  · intro read
    exact ⟨_, read, by simp only [String.ofList_toList]⟩

theorem defaultText?_of_isExpression {sql : String} (expression : IsExpression (trim sql)) :
    defaultText? sql = some
      (match literal? (trim sql).toList with
        | some body => Default.literal (String.ofList (undoubleQuotes body))
        | none => Default.expression (trim sql)).text := by
  have nonempty : sql ≠ "" := by
    rintro rfl
    exact expression.filled trim_empty
  rw [defaultText?, if_neg nonempty]
  exact congrArg (fun default => some default.text)
    (Default.ofSql_of_hasNoWord expression.toHasNoWord)

/--
What is neither a word of the data model nor one literal of SQL is left to the database exactly if
it is not enclosed in quotes, and its literal there is read as the expression exactly if it has no
backslashes besides.
-/
theorem expressions_kept_iff {sql : String} (expression : IsExpression (trim sql)) :
    ((∃ argument, defaultText? sql = some (generatedBy argument)) ↔ ¬ IsEnclosed (trim sql)) ∧
      ((∃ argument, defaultText? sql = some (generatedBy argument) ∧
          readQuoted argument.toList = some (trim sql, [])) ↔
        ¬ IsEnclosed (trim sql) ∧ '\\' ∉ (trim sql).toList) := by
  rw [defaultText?_of_isExpression expression, isEnclosed_iff]
  cases read : literal? (trim sql).toList with
  | some body => simp [text_literal_ne_generatedBy]
  | none => simp [text_expression, generatedBy_inj, readQuoted_expressionLiteral_iff]

/-- A call with quotes of both kinds between blanks. -/
theorem expressions_kept_iff_nextval :
    IsExpression (trim " nextval('\"Seq\"') ") ∧ ¬ IsEnclosed (trim " nextval('\"Seq\"') ") ∧
      ∃ argument, defaultText? " nextval('\"Seq\"') " = some (generatedBy argument) ∧
        readQuoted argument.toList = some (trim " nextval('\"Seq\"') ", []) := by
  have expression : IsExpression (trim " nextval('\"Seq\"') ") := by decide
  have open_ : ¬ IsEnclosed (trim " nextval('\"Seq\"') ") := by decide
  exact ⟨expression, open_, (expressions_kept_iff expression).2.mpr ⟨open_, by decide⟩⟩

/-- Two literals that are joined become one, and a backslash is not kept as it is. -/
theorem expressions_not_kept :
    IsExpression (trim "'a' || 'b'") ∧ defaultText? "'a' || 'b'" = some "\"a' || 'b\"" ∧
      (∀ argument, defaultText? "'a' || 'b'" ≠ some (generatedBy argument)) ∧
      IsExpression (trim "E'a\\tb'") ∧
      defaultText? "E'a\\tb'" = some (generatedBy "\"E'a\\tb'\"") ∧
      readQuoted "\"E'a\\tb'\"".toList = none := by
  have joined : defaultText? "'a' || 'b'" = some (Default.literal "a' || 'b").text := by decide
  refine ⟨by decide, by decide, fun argument same => ?_, by decide, by decide, by decide⟩
  exact text_literal_ne_generatedBy _ _ (Option.some.inj (joined.symm.trans same))

end SchemaArtifacts.Prisma
