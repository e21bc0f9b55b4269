import SchemaArtifacts.Escape.Script
import SchemaArtifacts.Proofs.Escape.Line
import SchemaArtifacts.Proofs.Text.Reading

/-!
# Literals read back

A reader of the single-quoted literals of a script.  A literal stays on one line and ends at the
first quote without a backslash, and every text is read back from its literal.  Reading is to find
the end of a literal and then to decode its escapes.
-/

namespace SchemaArtifacts.Escape

open Text

def unescaped? (c : Char) : Option Char :=
  if c = '\\' || c = '\'' then some c
  else if c = 'n' then some '\n'
  else if c = 'r' then some '\r'
  else none

def readLiteralText : Reader Char (List Char)
  | [] => none
  | '\'' :: rest => some ([], rest)
  | '\\' :: escaped :: rest =>
    match unescaped? escaped with
    | none => none
    | some c => (readLiteralText rest).map fun (text, rest) => (c :: text, rest)
  | c :: rest =>
    if c = '\\' || isLineBreak c then none
    else (readLiteralText rest).map fun (text, rest) => (c :: text, rest)

def readLiteral : Reader Char String
  | '\'' :: cs => (readLiteralText cs).map fun (text, rest) => (String.ofList text, rest)
  | _ => none

theorem scriptChar_eq (c : Char) :
    (∃ escaped, scriptChar c = ['\\', escaped] ∧ unescaped? escaped = some c ∧
      isLineBreak escaped = false) ∨
    scriptChar c = [c] ∧ c ≠ '\'' ∧ c ≠ '\\' ∧ isLineBreak c = false := by
  by_cases slash : c = '\\'
  · subst slash
    exact .inl ⟨'\\', by decide⟩
  by_cases quote : c = '\''
  · subst quote
    exact .inl ⟨'\'', by decide⟩
  by_cases feed : c = '\n'
  · subst feed
    exact .inl ⟨'n', by decide⟩
  by_cases carriage : c = '\r'
  · subst carriage
    exact .inl ⟨'r', by decide⟩
  right
  simp [scriptChar, isLineBreak, slash, quote, feed, carriage]

theorem readLiteralText_scriptChar (c : Char) (cs : List Char) :
    readLiteralText (scriptChar c ++ cs) =
      (readLiteralText cs).map fun (text, rest) => (c :: text, rest) := by
  rcases scriptChar_eq c with ⟨escaped, written, stands, -⟩ | ⟨written, noQuote, noSlash, unbroken⟩
  · rw [written, List.cons_append, List.cons_append, List.nil_append, readLiteralText]
    simp only [stands]
  · rw [written, List.singleton_append, readLiteralText]
    · simp [noSlash, unbroken]
    · exact noQuote
    · exact fun _ _ same => absurd same noSlash

theorem readLiteral_scriptLiteral (text : String) (rest : List Char) :
    readLiteral ((scriptLiteral text).toList ++ rest) = some (text, rest) := by
  have body : ∀ cs : List Char,
      readLiteralText (cs.flatMap scriptChar ++ '\'' :: rest) = some (cs, rest) := by
    intro cs
    induction cs with
    | nil => rfl
    | cons c cs ih =>
        rw [List.flatMap_cons, List.append_assoc, readLiteralText_scriptChar, ih]
        rfl
  rw [scriptLiteral, scriptLiteralChars, String.toList_ofList]
  simp only [List.cons_append, List.append_assoc, List.nil_append, readLiteral, body,
    Option.map_some, String.ofList_toList]

theorem not_mem_scriptLiteral (text : String) {c : Char} (breaks : isLineBreak c = true) :
    c ∉ (scriptLiteral text).toList := by
  have apart : ∀ {other}, isLineBreak other = false → c ≠ other := by
    rintro other unbroken rfl
    rw [breaks] at unbroken
    contradiction
  intro mem
  rw [scriptLiteral, scriptLiteralChars, String.toList_ofList] at mem
  simp only [List.cons_append, List.mem_cons, List.mem_append, List.not_mem_nil, or_false,
    show c ≠ '\'' from apart rfl, false_or, List.mem_flatMap] at mem
  obtain ⟨other, -, mem⟩ := mem
  rcases scriptChar_eq other with ⟨escaped, written, -, unbroken⟩ | ⟨written, -, -, unbroken⟩
  · rw [written] at mem
    simp [show c ≠ '\\' from apart rfl, apart unbroken] at mem
  · rw [written, List.mem_singleton] at mem
    exact apart unbroken mem

theorem isUnbroken_scriptLiteral (text : String) : IsUnbroken (scriptLiteral text) :=
  not_mem_scriptLiteral text rfl

theorem isOneLine_scriptLiteral (text : String) : IsOneLine (scriptLiteral text) :=
  fun _ mem => Bool.eq_false_iff.mpr fun breaks => not_mem_scriptLiteral text breaks mem

theorem scriptLiteral_injective : Function.Injective scriptLiteral := by
  intro first second same
  have read := readLiteral_scriptLiteral first []
  rw [same, readLiteral_scriptLiteral] at read
  exact (congrArg Prod.fst (Option.some.inj read)).symm

theorem mem_scriptLiteral_iff {c : Char} (separates : isSeparator c = true) (text : String) :
    c ∈ (scriptLiteral text).toList ↔ c ∈ text.toList := by
  have unquoted : c ≠ '\'' := isSeparator.elim separates (p := (· ≠ '\'')) (by decide) (by decide)
  have written (d : Char) : c ∈ scriptChar d ↔ c = d := by
    apply isSeparator.elim separates (p := fun c => c ∈ scriptChar d ↔ c = d) <;>
      grind [scriptChar]
  simp [scriptLiteral, scriptLiteralChars, written, unquoted]

/-- The characters after an opening quote, up to the closing one.  A backslash takes the next
character with it, whichever that is. -/
def scanLiteralText : Reader Char (List Char)
  | [] => none
  | '\'' :: rest => some ([], rest)
  | '\\' :: escaped :: rest =>
    (scanLiteralText rest).map fun (body, rest) => ('\\' :: escaped :: body, rest)
  | c :: rest =>
    if c = '\\' || isLineBreak c then none
    else (scanLiteralText rest).map fun (body, rest) => (c :: body, rest)

def scanLiteral : Reader Char (List Char)
  | '\'' :: cs => (scanLiteralText cs).map fun (body, rest) => ('\'' :: body ++ ['\''], rest)
  | _ => none

def unescape? : List Char → Option (List Char)
  | [] => some []
  | '\\' :: escaped :: rest =>
    match unescaped? escaped with
    | none => none
    | some c => (unescape? rest).map (c :: ·)
  | c :: rest => if c = '\\' then none else (unescape? rest).map (c :: ·)

/-- The text that a literal with both of its quotes stands for. -/
def decodeLiteral : List Char → Option String
  | '\'' :: cs =>
    if cs.getLast? = some '\'' then (unescape? cs.dropLast).map String.ofList else none
  | _ => none

theorem scanLiteralText_cons {c : Char} (noQuote : c ≠ '\'') (noSlash : c ≠ '\\')
    (unbroken : isLineBreak c = false) (cs : List Char) :
    scanLiteralText (c :: cs) =
      (scanLiteralText cs).map fun (body, rest) => (c :: body, rest) := by
  rw [scanLiteralText]
  · simp [noSlash, unbroken]
  · exact noQuote
  · exact fun _ _ same => absurd same noSlash

theorem unescape?_cons {c : Char} (noSlash : c ≠ '\\') (cs : List Char) :
    unescape? (c :: cs) = (unescape? cs).map (c :: ·) := by
  rw [unescape?]
  · rw [if_neg noSlash]
  · exact fun _ _ same => absurd same noSlash

theorem readLiteralText_eq (cs : List Char) :
    readLiteralText cs =
      (scanLiteralText cs).bind fun (body, rest) => (unescape? body).map (·, rest) := by
  fun_induction readLiteralText cs with
  | case1 => rfl
  | case2 rest => rfl
  | case3 escaped rest unknown =>
      cases scanned : scanLiteralText rest <;> simp [scanLiteralText, scanned, unescape?, unknown]
  | case4 escaped rest c known ih =>
      rw [ih]
      cases scanned : scanLiteralText rest with
      | none => simp [scanLiteralText, scanned]
      | some found => cases decoded : unescape? found.1 <;>
          simp [scanLiteralText, scanned, unescape?, known, decoded]
  | case5 c rest noQuote noEscape stops => simp_all [scanLiteralText]
  | case6 c rest noQuote noEscape goesOn ih =>
      obtain ⟨noSlash, unbroken⟩ : c ≠ '\\' ∧ isLineBreak c = false := by simpa using goesOn
      rw [ih, scanLiteralText_cons noQuote noSlash unbroken]
      cases scanned : scanLiteralText rest with
      | none => rfl
      | some found => cases decoded : unescape? found.1 <;>
          simp [unescape?_cons noSlash, decoded]

theorem readLiteral_eq (cs : List Char) :
    readLiteral cs =
      (scanLiteral cs).bind fun (token, rest) => (decodeLiteral token).map (·, rest) := by
  rw [readLiteral.eq_def, scanLiteral.eq_def]
  split
  case h_1 cs =>
    rw [readLiteralText_eq]
    cases scanned : scanLiteralText cs with
    | none => rfl
    | some found => cases decoded : unescape? found.1 <;> simp [decodeLiteral, decoded]
  case h_2 => rfl

theorem eq_append_of_scanLiteralText {cs body rest : List Char}
    (scanned : scanLiteralText cs = some (body, rest)) : cs = body ++ '\'' :: rest := by
  fun_induction scanLiteralText cs generalizing body rest with
  | case1 => cases scanned
  | case2 rest =>
      cases scanned
      rfl
  | case3 escaped others ih | case5 c others noQuote noEscape goesOn ih =>
      obtain ⟨⟨inner, _⟩, taken, same⟩ := Option.map_eq_some_iff.mp scanned
      cases same
      rw [ih taken]
      rfl
  | case4 => cases scanned

theorem eq_append_of_scanLiteral {cs token rest : List Char}
    (scanned : scanLiteral cs = some (token, rest)) : cs = token ++ rest := by
  unfold scanLiteral at scanned
  split at scanned
  case h_1 cs =>
    obtain ⟨⟨body, _⟩, taken, same⟩ := Option.map_eq_some_iff.mp scanned
    cases same
    rw [eq_append_of_scanLiteralText taken]
    simp
  case h_2 => cases scanned

theorem scriptLiteral_eq_replace (text : String) :
    scriptLiteral text =
      "'" ++ replace "\r" "\\r"
        (replace "\n" "\\n" (replace "'" "\\'" (replace "\\" "\\\\" text))) ++ "'" := by
  have inTurn (c : Char) :
      ((if c = '\\' then ['\\', '\\'] else [c]).flatMap fun c =>
        (if c = '\'' then ['\\', '\''] else [c]).flatMap fun c =>
          (if c = '\n' then ['\\', 'n'] else [c]).flatMap fun c =>
            if c = '\r' then ['\\', 'r'] else [c]) = scriptChar c := by
    by_cases slash : c = '\\'
    · subst slash
      rfl
    by_cases quote : c = '\''
    · subst quote
      rfl
    by_cases feed : c = '\n'
    · subst feed
      rfl
    simp [scriptChar, slash, quote, feed]
  have chars : (replace "\r" "\\r" (replace "\n" "\\n"
      (replace "'" "\\'" (replace "\\" "\\\\" text)))).toList =
        text.toList.flatMap scriptChar := by
    rw [show "\r" = String.singleton '\r' from rfl, show "\n" = String.singleton '\n' from rfl,
      show "'" = String.singleton '\'' from rfl, show "\\" = String.singleton '\\' from rfl]
    simp only [toList_replace_singleton, List.flatMap_assoc]
    exact List.flatMap_congr fun c _ => inTurn c
  rw [← String.toList_inj, String.toList_append, String.toList_append, chars, scriptLiteral,
    String.toList_ofList]
  rfl

/--
A literal is scanned up to its own closing quote, whatever follows it, and decodes to its text.  It
stands on one line, and it is what four replacements in turn make of the text.
-/
theorem scriptLiteral_scans_and_decodes (text : String) (rest : List Char) :
    scanLiteral ((scriptLiteral text).toList ++ rest) =
        some ((scriptLiteral text).toList, rest) ∧
      decodeLiteral (scriptLiteral text).toList = some text ∧
      IsOneLine (scriptLiteral text) ∧
      scriptLiteral text =
        "'" ++ replace "\r" "\\r"
          (replace "\n" "\\n" (replace "'" "\\'" (replace "\\" "\\\\" text))) ++ "'" := by
  have read := readLiteral_scriptLiteral text rest
  rw [readLiteral_eq] at read
  obtain ⟨⟨token, others⟩, scanned, rest'⟩ := Option.bind_eq_some_iff.mp read
  obtain ⟨found, decoded, same⟩ := Option.map_eq_some_iff.mp rest'
  obtain ⟨sameText, rfl⟩ := Prod.mk.inj same
  rw [sameText] at decoded
  obtain rfl := List.append_cancel_right (eq_append_of_scanLiteral scanned)
  exact ⟨scanned, decoded, isOneLine_scriptLiteral text, scriptLiteral_eq_replace text⟩

theorem readSeparated_scriptLiterals {separator : String} (separates : separator.toList ≠ [])
    {texts : List String} (nonempty : texts ≠ []) {rest : List Char}
    (ends : afterPattern? separator.toList rest = none) :
    readSeparated separator.toList readLiteral
        ((String.intercalate separator (texts.map scriptLiteral)).toList ++ rest) =
      some (texts, rest) := by
  rw [String.toList_intercalate, List.map_map]
  exact @readSeparated_intercalate _ separator.toList readLiteral rest _ (fun _ => True) texts
    nonempty (fun text _ rest _ => readLiteral_scriptLiteral text rest)
    ⟨separates, fun _ => trivial⟩ ⟨trivial, ends⟩

theorem isUnbroken_scriptLiterals {separator : String} (separates : IsUnbroken separator)
    (texts : List String) :
    IsUnbroken (String.intercalate separator (texts.map scriptLiteral)) := by
  refine separates.intercalate fun part mem => ?_
  obtain ⟨text, -, rfl⟩ := List.mem_map.mp mem
  exact isUnbroken_scriptLiteral text

end SchemaArtifacts.Escape
