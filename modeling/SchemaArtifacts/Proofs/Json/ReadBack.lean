import SchemaArtifacts.Proofs.Json.Tokens

/-!
# Written values read back

Every value without floating-point numbers that is not nested too deeply is read back from what
was written of it, on one line or indented by blanks, whatever follows.
-/

namespace SchemaArtifacts.Json

open Text

/-- A layout that puts nothing but blanks between the parts of a value. -/
def Layout.IsBlank : Layout → Prop
  | line => True
  | indented unit => ∀ c ∈ unit.toList, isJsonBlank c = true

theorem Layout.IsBlank.breakChars {layout : Layout} (blank : layout.IsBlank) (depth : Nat) :
    ∀ c ∈ layout.breakChars depth, isJsonBlank c = true := by
  cases layout with
  | line => simp [Layout.breakChars]
  | indented unit =>
      intro c mem
      rcases List.mem_cons.mp mem with rfl | mem
      · rfl
      · obtain ⟨chars, level, mem⟩ := List.mem_flatten.mp mem
        rw [List.eq_of_mem_replicate level] at mem
        exact blank c mem

theorem Layout.IsBlank.separatorChars {layout : Layout} (blank : layout.IsBlank)
    (depth : Nat) :
    ∃ gap, layout.separatorChars depth = ',' :: gap ∧ ∀ c ∈ gap, isJsonBlank c = true := by
  cases layout with
  | line => exact ⟨[' '], rfl, by simp [isJsonBlank]⟩
  | indented unit => exact ⟨_, rfl, blank.breakChars depth⟩

theorem skipBlanks_append {gap : List Char} (blank : ∀ c ∈ gap, isJsonBlank c = true)
    (cs : List Char) : skipBlanks (gap ++ cs) = skipBlanks cs :=
  List.dropWhile_append_of_pos blank

theorem skipBlanks_cons {c : Char} (visible : isJsonBlank c = false) (cs : List Char) :
    skipBlanks (c :: cs) = c :: cs :=
  List.dropWhile_cons_of_neg (by simp [visible])

theorem skipBlanks_space {c : Char} (visible : isJsonBlank c = false) (cs : List Char) :
    skipBlanks (' ' :: c :: cs) = c :: cs :=
  skipBlanks_cons visible cs

theorem endsNumber_cons {c : Char} {rest : List Char}
    (ends : isAsciiDigit c = false ∧ c ≠ '.' ∧ c ≠ 'e' ∧ c ≠ 'E') : EndsNumber (c :: rest) := by
  intro first mem
  obtain rfl : c = first := by simpa using mem
  exact ends

theorem endsNumber_of_isJsonBlank {c : Char} (blank : isJsonBlank c = true) :
    isAsciiDigit c = false ∧ c ≠ '.' ∧ c ≠ 'e' ∧ c ≠ 'E' := by
  simp only [isJsonBlank, Bool.or_eq_true, beq_iff_eq] at blank
  rcases blank with ((rfl | rfl) | rfl) | rfl <;> decide

theorem endsNumber_append {gap rest : List Char} (blank : ∀ c ∈ gap, isJsonBlank c = true)
    (ends : EndsNumber rest) : EndsNumber (gap ++ rest) := by
  cases gap with
  | nil => exact ends
  | cons c gap => exact endsNumber_cons (endsNumber_of_isJsonBlank (blank c List.mem_cons_self))

/-- A value with no floating-point number and no key twice in an object. -/
inductive IsPlain : Json → Prop
  | null : IsPlain null
  | bool (value : Bool) : IsPlain (bool value)
  | int (value : Int) : IsPlain (int value)
  | str (value : String) : IsPlain (str value)
  | arr {items : List Json} (each : ∀ item ∈ items, IsPlain item) : IsPlain (arr items)
  | obj {entries : List (String × Json)} (distinct : (Keyed.keys entries).Nodup)
      (each : ∀ entry ∈ entries, IsPlain entry.2) : IsPlain (obj entries)

/--
A plain value with no whole number too long to read and no more values inside of each other than
there is room for.
-/
inductive IsReadable : Nat → Json → Prop
  | null {room : Nat} : IsReadable room null
  | bool {room : Nat} (value : Bool) : IsReadable room (bool value)
  | int {room : Nat} {value : Int} (short : (numeralChars value.natAbs).length ≤ maxDigits) :
      IsReadable room (int value)
  | str {room : Nat} (value : String) : IsReadable room (str value)
  | arr {room : Nat} {items : List Json} (each : ∀ item ∈ items, IsReadable room item) :
      IsReadable (room + 1) (arr items)
  | obj {room : Nat} {entries : List (String × Json)} (distinct : (Keyed.keys entries).Nodup)
      (each : ∀ entry ∈ entries, IsReadable room entry.2) : IsReadable (room + 1) (obj entries)

/-- A character that a value may start with; a blank, a closing bracket and a byte order mark are
none. -/
def StartsValue (c : Char) : Prop :=
  isJsonBlank c = false ∧ c ≠ ']' ∧ c ≠ Char.ofNat 0xfeff

instance (c : Char) : Decidable (StartsValue c) := inferInstanceAs (Decidable (_ ∧ _ ∧ _))

theorem startsValue_of_digit {c : Char} (digit : isAsciiDigit c = true) : StartsValue c := by
  refine ⟨?_, ?_, ?_⟩
  · cases blank : isJsonBlank c with
    | false => rfl
    | true =>
        have ends := endsNumber_of_isJsonBlank blank
        rw [digit] at ends
        exact absurd ends.1 (by decide)
  · rintro rfl
    exact absurd digit (by decide)
  · rintro rfl
    exact absurd digit (by decide)

theorem IsReadable.isPlain {room : Nat} {value : Json} (readable : IsReadable room value) :
    IsPlain value := by
  induction readable with
  | null => exact .null
  | bool value => exact .bool value
  | int short => exact .int _
  | str value => exact .str value
  | arr each ih => exact .arr ih
  | obj distinct each ih => exact .obj distinct ih

theorem IsReadable.succ {room : Nat} {value : Json} (readable : IsReadable room value) :
    IsReadable (room + 1) value := by
  induction readable with
  | null => exact .null
  | bool value => exact .bool value
  | int short => exact .int short
  | str value => exact .str value
  | arr each ih => exact .arr ih
  | obj distinct each ih => exact .obj distinct ih

theorem IsReadable.small {room : Nat} {value : Int} (small : value.natAbs < maxDigits) :
    IsReadable room (Json.int value) :=
  .int (Nat.le_trans (length_numeralChars_le _) small)

theorem IsPlain.chars_eq_cons {value : Json} (plain : IsPlain value) (layout : Layout)
    (depth : Nat) :
    ∃ c rest, chars layout depth value = c :: rest ∧ StartsValue c := by
  cases plain with
  | null => exact ⟨'n', ['u', 'l', 'l'], chars_null layout depth, by decide⟩
  | bool value =>
      cases value with
      | true => exact ⟨'t', ['r', 'u', 'e'], chars_true layout depth, by decide⟩
      | false => exact ⟨'f', ['a', 'l', 's', 'e'], chars_false layout depth, by decide⟩
  | int value =>
      rw [chars]
      cases value with
      | ofNat n =>
          obtain ⟨c, rest, eq, digit⟩ := numeralChars_eq_cons n
          exact ⟨c, rest, eq, startsValue_of_digit digit⟩
      | negSucc n => exact ⟨'-', _, rfl, by decide⟩
  | str value => exact ⟨'"', _, by rw [chars]; rfl, by decide⟩
  | @arr items each =>
      cases items with
      | nil => exact ⟨'[', _, by rw [chars], by decide⟩
      | cons item items => exact ⟨'[', _, by rw [chars]; rfl, by decide⟩
  | @obj entries distinct each =>
      cases entries with
      | nil => exact ⟨'\x7b', _, by rw [chars], by decide⟩
      | cons entry entries => exact ⟨'\x7b', _, by rw [chars]; rfl, by decide⟩

/-- A value is read back wherever it stands and whatever follows, given fuel enough. -/
def ReadsBack (layout : Layout) (room : Nat) (value : Json) : Prop :=
  ∀ (depth fuel : Nat) (rest : List Char), EndsNumber rest →
    2 * (chars layout depth value).length ≤ fuel →
    readValue room fuel (chars layout depth value ++ rest) = .ok (value, rest)

/-! ## Constants, numbers and texts -/

theorem readValue_scalar {c : Char} (plain : c ≠ '"' ∧ c ≠ '[' ∧ c ≠ '\x7b')
    (room fuel : Nat) (rest : List Char) :
    readValue room (fuel + 1) (c :: rest) =
      match readConstant? (c :: rest) with
      | some step => .ok step
      | none => readNumber (c :: rest) := by
  obtain ⟨notQuote, notBracket, notBrace⟩ := plain
  rw [readValue]
  all_goals first | rfl | simp_all

theorem IsReadable.readsBack_of_step {layout : Layout} {room : Nat} {value : Json}
    (readable : IsReadable room value)
    (step : ∀ (depth fuel : Nat) (rest : List Char), EndsNumber rest →
      2 * (chars layout depth value).length ≤ fuel + 1 →
      readValue room (fuel + 1) (chars layout depth value ++ rest) = .ok (value, rest)) :
    ReadsBack layout room value := by
  intro depth fuel rest ends enough
  obtain ⟨c, others, written, -⟩ := readable.isPlain.chars_eq_cons layout depth
  cases fuel with
  | zero => simp [written] at enough
  | succ fuel => exact step depth fuel rest ends enough

theorem IsReadable.readsBack_constant {layout : Layout} {room : Nat} {value : Json} {c : Char}
    {word : List Char} (readable : IsReadable room value)
    (written : ∀ depth, chars layout depth value = c :: word)
    (plain : c ≠ '"' ∧ c ≠ '[' ∧ c ≠ '\x7b')
    (known : ∀ rest, readConstant? (c :: (word ++ rest)) = some (value, rest)) :
    ReadsBack layout room value := by
  apply readable.readsBack_of_step
  intro depth fuel rest _ _
  rw [written, List.cons_append, readValue_scalar plain, known]

theorem readsBack_null (layout : Layout) (room : Nat) : ReadsBack layout room null :=
  IsReadable.null.readsBack_constant (chars_null layout) (by decide) fun _ => rfl

theorem readsBack_bool (layout : Layout) (room : Nat) (value : Bool) :
    ReadsBack layout room (bool value) := by
  cases value with
  | true =>
      have written := chars_true layout
      exact (IsReadable.bool true).readsBack_constant written (by decide) fun _ => rfl
  | false =>
      have written := chars_false layout
      exact (IsReadable.bool false).readsBack_constant written (by decide) fun _ => rfl

theorem readConstant?_of_digit {c : Char} (digit : isAsciiDigit c = true) (rest : List Char) :
    readConstant? (c :: rest) = none ∧ readConstant? ('-' :: c :: rest) = none := by
  have other : ∀ letter, isAsciiDigit letter = false → letter ≠ c := by
    rintro letter notDigit rfl
    rw [digit] at notDigit
    exact absurd notDigit (by decide)
  have n := other 'n' (by decide)
  have t := other 't' (by decide)
  have f := other 'f' (by decide)
  have capitalN := other 'N' (by decide)
  have capitalI := other 'I' (by decide)
  have dash := other '-' (by decide)
  constructor
  · simp [readConstant?, constants, afterPattern?, n, t, f, capitalN, capitalI, dash]
  · simp [readConstant?, constants, afterPattern?, capitalI]

theorem readValue_intChars (room fuel : Nat) (value : Int) (rest : List Char) :
    readValue room (fuel + 1) (intChars value ++ rest) = readNumber (intChars value ++ rest) := by
  cases value with
  | ofNat n =>
      obtain ⟨c, others, written, digit⟩ := numeralChars_eq_cons n
      have plain : c ≠ '"' ∧ c ≠ '[' ∧ c ≠ '\x7b' := by
        refine ⟨?_, ?_, ?_⟩ <;> rintro rfl <;> exact absurd digit (by decide)
      rw [intChars, written, List.cons_append, readValue_scalar plain,
        (readConstant?_of_digit digit _).1]
  | negSucc n =>
      obtain ⟨c, others, written, digit⟩ := numeralChars_eq_cons (n + 1)
      rw [intChars, written, List.cons_append, List.cons_append, readValue_scalar (by decide),
        (readConstant?_of_digit digit _).2]

theorem readsBack_int (layout : Layout) (room : Nat) {value : Int}
    (short : (numeralChars value.natAbs).length ≤ maxDigits) :
    ReadsBack layout room (int value) := by
  apply (IsReadable.int short).readsBack_of_step
  intro depth fuel rest ends _
  rw [chars, readValue_intChars, readNumber_intChars value ends, if_neg (by omega)]

theorem textChars_append (s : String) (rest : List Char) :
    textChars s ++ rest = '"' :: (s.toList.flatMap escapedChar ++ '"' :: rest) := by
  simp [textChars]

theorem readsBack_str (layout : Layout) (room : Nat) (value : String) :
    ReadsBack layout room (str value) := by
  apply (IsReadable.str value).readsBack_of_step
  intro depth fuel rest _ _
  rw [chars, textChars_append, readValue, readText_escapedChars]
  simp [bind, Except.bind, pure, Except.pure]

theorem readValue_items {rest more : List Char} {first : Char} (room fuel : Nat)
    (skipped : skipBlanks rest = first :: more) (unclosed : first ≠ ']') :
    readValue (room + 1) (fuel + 1) ('[' :: rest) =
      (readItems room fuel (first :: more)).map fun (items, rest) => (arr items, rest) := by
  rw [readValue, skipped]
  split
  · simp_all
  · cases readItems room fuel (first :: more) <;> rfl

theorem readItems_last {room fuel : Nat} {cs rest after : List Char} {item : Json}
    (read : readValue room fuel cs = .ok (item, rest)) (skipped : skipBlanks rest = ']' :: after) :
    readItems room (fuel + 1) cs = .ok ([item], after) := by
  rw [readItems, read]
  simp only [bind, Except.bind, skipped]
  rfl

theorem readItems_next {room fuel : Nat} {cs rest after last : List Char} {item : Json}
    {items : List Json} (read : readValue room fuel cs = .ok (item, rest))
    (skipped : skipBlanks rest = ',' :: after)
    (others : readItems room fuel (skipBlanks after) = .ok (items, last)) :
    readItems room (fuel + 1) cs = .ok (item :: items, last) := by
  rw [readItems, read]
  simp only [bind, Except.bind, skipped, others]
  rfl

theorem itemsChars_cons (layout : Layout) (depth : Nat) (item next : Json) (others : List Json) :
    itemsChars layout depth (item :: next :: others) =
      chars layout depth item ++
        (layout.separatorChars depth ++ itemsChars layout depth (next :: others)) := by
  rw [itemsChars, List.append_assoc]
  simp

theorem itemsChars_eq_cons (layout : Layout) {item : Json} (plain : IsPlain item) (depth : Nat)
    (others : List Json) :
    ∃ c rest, itemsChars layout depth (item :: others) = c :: rest ∧ StartsValue c := by
  obtain ⟨c, rest, written, starts⟩ := plain.chars_eq_cons layout depth
  cases others with
  | nil => exact ⟨c, rest, by rw [itemsChars, written], starts⟩
  | cons other others => exact ⟨c, _, by rw [itemsChars_cons, written]; rfl, starts⟩

theorem closing_chars {layout : Layout} (blank : layout.IsBlank) (depth : Nat) {c : Char}
    (close : c = ']' ∨ c = '\x7d') (rest : List Char) :
    EndsNumber (layout.breakChars depth ++ c :: rest) ∧
      skipBlanks (layout.breakChars depth ++ c :: rest) = c :: rest := by
  have visible := blank.breakChars depth
  constructor
  · apply endsNumber_append visible
    rcases close with rfl | rfl <;> exact endsNumber_cons (by decide)
  · rw [skipBlanks_append visible]
    rcases close with rfl | rfl <;> exact skipBlanks_cons (by decide) rest

theorem separating_chars {layout : Layout} (blank : layout.IsBlank) (depth : Nat) {c : Char}
    (visible : isJsonBlank c = false) (rest : List Char) :
    ∃ gap, layout.separatorChars depth = ',' :: gap ∧
      EndsNumber (layout.separatorChars depth ++ c :: rest) ∧
      skipBlanks (layout.separatorChars depth ++ c :: rest) = ',' :: (gap ++ c :: rest) ∧
      skipBlanks (gap ++ c :: rest) = c :: rest := by
  obtain ⟨gap, separator, gapBlank⟩ := blank.separatorChars depth
  refine ⟨gap, separator, ?_, ?_, ?_⟩
  · rw [separator]
    exact endsNumber_cons (by decide)
  · rw [separator]
    exact skipBlanks_cons (by decide) _
  · rw [skipBlanks_append gapBlank, skipBlanks_cons visible]

theorem readItems_itemsChars {layout : Layout} (blank : layout.IsBlank) {room : Nat}
    (depth outer : Nat) (rest : List Char) (item : Json) (others : List Json) (fuel : Nat)
    (readable : ∀ value ∈ item :: others, IsReadable room value)
    (back : ∀ value ∈ item :: others, ReadsBack layout room value)
    (enough : 2 * (itemsChars layout depth (item :: others)).length ≤ fuel) :
    readItems room (fuel + 1)
        (itemsChars layout depth (item :: others) ++ (layout.breakChars outer ++ ']' :: rest)) =
      .ok (item :: others, rest) := by
  induction others generalizing item fuel with
  | nil =>
      obtain ⟨ends, skipped⟩ := closing_chars blank outer (.inl rfl) rest
      rw [itemsChars] at enough ⊢
      exact readItems_last (back item (by simp) depth fuel _ ends enough) skipped
  | cons next others ih =>
      obtain ⟨c, tail, written, visible, -⟩ :=
        itemsChars_eq_cons layout (readable next (by simp)).isPlain depth others
      obtain ⟨gap, separator, ends, skipped, skippedGap⟩ :=
        separating_chars blank depth visible (tail ++ (layout.breakChars outer ++ ']' :: rest))
      rw [itemsChars_cons] at enough ⊢
      simp only [separator, List.length_append, List.length_cons] at enough
      obtain ⟨fuel, rfl⟩ : ∃ less, fuel = less + 1 := Nat.exists_eq_add_of_le' (by omega)
      have later := ih next fuel (fun value mem => readable value (List.mem_cons_of_mem _ mem))
        (fun value mem => back value (List.mem_cons_of_mem _ mem)) (by omega)
      rw [written, List.cons_append] at later
      rw [written, List.append_assoc, List.append_assoc, List.cons_append]
      refine readItems_next (back item (by simp) depth (fuel + 1) _ ends (by omega)) skipped ?_
      rw [skippedGap]
      exact later

theorem readsBack_arr {layout : Layout} (blank : layout.IsBlank) {room : Nat} {items : List Json}
    (readable : ∀ item ∈ items, IsReadable room item)
    (back : ∀ item ∈ items, ReadsBack layout room item) :
    ReadsBack layout (room + 1) (arr items) := by
  apply (IsReadable.arr readable).readsBack_of_step
  intro depth fuel rest _ enough
  cases items with
  | nil =>
      rw [chars]
      rfl
  | cons item others =>
      obtain ⟨c, tail, written, visible, unclosed, -⟩ :=
        itemsChars_eq_cons layout (readable item (by simp)).isPlain (depth + 1) others
      have skipped (more : List Char) :
          skipBlanks (layout.breakChars (depth + 1) ++ (c :: more)) = c :: more := by
        rw [skipBlanks_append (blank.breakChars (depth + 1)), skipBlanks_cons visible]
      rw [chars] at enough ⊢
      simp only [List.length_append, List.length_cons, List.length_nil] at enough
      obtain ⟨fuel, rfl⟩ : ∃ less, fuel = less + 1 := Nat.exists_eq_add_of_le' (by omega)
      have read := readItems_itemsChars blank (depth + 1) depth rest item others fuel readable back
        (by omega)
      rw [written, List.cons_append] at read
      rw [written]
      simp only [List.cons_append, List.append_assoc, List.nil_append]
      rw [readValue_items room (fuel + 1) (skipped _) unclosed, read]
      rfl

/-! ## Objects -/

theorem readValue_entries {rest more : List Char} {first : Char} (room fuel : Nat)
    (skipped : skipBlanks rest = first :: more) (unclosed : first ≠ '\x7d') :
    readValue (room + 1) (fuel + 1) ('\x7b' :: rest) =
      (readEntries room fuel (first :: more)).map
        fun (entries, rest) => (obj (Keyed.ofPairs entries), rest) := by
  rw [readValue, skipped]
  split
  · simp_all
  · cases readEntries room fuel (first :: more) <;> rfl

theorem readEntries_last {room fuel : Nat} {key : String} {cs rest after : List Char} {value : Json}
    (read : readValue room fuel cs = .ok (value, rest))
    (visible : skipBlanks (' ' :: cs) = cs)
    (skipped : skipBlanks rest = '\x7d' :: after) :
    readEntries room (fuel + 1) (textChars key ++ ':' :: ' ' :: cs) =
      .ok ([(key, value)], after) := by
  rw [textChars_append, readEntries, readText_escapedChars]
  have colon : skipBlanks (':' :: ' ' :: cs) = ':' :: ' ' :: cs := skipBlanks_cons (by decide) _
  simp only [bind, Except.bind, colon, visible, read, skipped, String.ofList_toList]
  rfl

theorem readEntries_next {room fuel : Nat} {key : String} {cs rest after last : List Char}
    {value : Json} {entries : List (String × Json)}
    (read : readValue room fuel cs = .ok (value, rest))
    (visible : skipBlanks (' ' :: cs) = cs)
    (skipped : skipBlanks rest = ',' :: after)
    (others : readEntries room fuel (skipBlanks after) = .ok (entries, last)) :
    readEntries room (fuel + 1) (textChars key ++ ':' :: ' ' :: cs) =
      .ok ((key, value) :: entries, last) := by
  rw [textChars_append, readEntries, readText_escapedChars]
  have colon : skipBlanks (':' :: ' ' :: cs) = ':' :: ' ' :: cs := skipBlanks_cons (by decide) _
  simp only [bind, Except.bind, colon, visible, read, skipped, others, String.ofList_toList]
  rfl

theorem entriesChars_last (layout : Layout) (depth : Nat) (entry : String × Json) :
    entriesChars layout depth [entry] =
      textChars entry.1 ++ ':' :: ' ' :: chars layout depth entry.2 := by
  rw [entriesChars, List.append_assoc]
  rfl

theorem entriesChars_cons (layout : Layout) (depth : Nat) (entry next : String × Json)
    (others : List (String × Json)) :
    entriesChars layout depth (entry :: next :: others) =
      textChars entry.1 ++ ':' :: ' ' :: (chars layout depth entry.2 ++
        (layout.separatorChars depth ++ entriesChars layout depth (next :: others))) := by
  rw [entriesChars]
  · simp only [List.append_assoc, List.cons_append, List.nil_append]
  · simp

theorem entriesChars_eq_cons (layout : Layout) (depth : Nat) (entry : String × Json)
    (others : List (String × Json)) :
    ∃ rest, entriesChars layout depth (entry :: others) = '"' :: rest := by
  cases others with
  | nil => exact ⟨_, by rw [entriesChars_last, textChars_append]⟩
  | cons other others => exact ⟨_, by rw [entriesChars_cons, textChars_append]⟩

theorem readEntries_entriesChars {layout : Layout} (blank : layout.IsBlank) {room : Nat}
    (depth outer : Nat) (rest : List Char) (entry : String × Json)
    (others : List (String × Json)) (fuel : Nat)
    (readable : ∀ found ∈ entry :: others, IsReadable room found.2)
    (back : ∀ found ∈ entry :: others, ReadsBack layout room found.2)
    (enough : 2 * (entriesChars layout depth (entry :: others)).length ≤ fuel) :
    readEntries room (fuel + 1)
        (entriesChars layout depth (entry :: others) ++
          (layout.breakChars outer ++ '\x7d' :: rest)) =
      .ok (entry :: others, rest) := by
  induction others generalizing entry fuel with
  | nil =>
      obtain ⟨ends, skipped⟩ := closing_chars blank outer (.inr rfl) rest
      obtain ⟨c, tail, written, visible, -⟩ :=
        (readable entry (by simp)).isPlain.chars_eq_cons layout depth
      rw [entriesChars_last] at enough ⊢
      simp only [List.length_append, List.length_cons] at enough
      have read := back entry (by simp) depth fuel _ ends (by omega)
      rw [List.append_assoc, List.cons_append, List.cons_append]
      refine readEntries_last read ?_ skipped
      rw [written, List.cons_append]
      exact skipBlanks_space visible _
  | cons next others ih =>
      obtain ⟨c, tail, written, visible, -⟩ :=
        (readable entry (by simp)).isPlain.chars_eq_cons layout depth
      obtain ⟨more, quoted⟩ := entriesChars_eq_cons layout depth next others
      obtain ⟨gap, separator, ends, skipped, skippedGap⟩ :=
        separating_chars blank depth (c := '"') (by decide)
          (more ++ (layout.breakChars outer ++ '\x7d' :: rest))
      rw [entriesChars_cons] at enough ⊢
      simp only [separator, List.length_append, List.length_cons] at enough
      obtain ⟨fuel, rfl⟩ : ∃ less, fuel = less + 1 := Nat.exists_eq_add_of_le' (by omega)
      have later := ih next fuel (fun found mem => readable found (List.mem_cons_of_mem _ mem))
        (fun found mem => back found (List.mem_cons_of_mem _ mem)) (by omega)
      rw [quoted, List.cons_append] at later
      have read := back entry (by simp) depth (fuel + 1) _ ends (by omega)
      simp only [quoted, List.append_assoc, List.cons_append]
      refine readEntries_next read ?_ skipped ?_
      · rw [written, List.cons_append]
        exact skipBlanks_space visible _
      · rw [skippedGap]
        exact later

theorem readsBack_obj {layout : Layout} (blank : layout.IsBlank) {room : Nat}
    {entries : List (String × Json)} (distinct : (Keyed.keys entries).Nodup)
    (readable : ∀ entry ∈ entries, IsReadable room entry.2)
    (back : ∀ entry ∈ entries, ReadsBack layout room entry.2) :
    ReadsBack layout (room + 1) (obj entries) := by
  apply (IsReadable.obj distinct readable).readsBack_of_step
  intro depth fuel rest _ enough
  cases entries with
  | nil =>
      rw [chars]
      rfl
  | cons entry others =>
      obtain ⟨more, quoted⟩ := entriesChars_eq_cons layout (depth + 1) entry others
      have skipped (tail : List Char) :
          skipBlanks (layout.breakChars (depth + 1) ++ ('"' :: tail)) = '"' :: tail := by
        rw [skipBlanks_append (blank.breakChars (depth + 1)), skipBlanks_cons (by decide)]
      rw [chars] at enough ⊢
      simp only [List.length_append, List.length_cons, List.length_nil] at enough
      obtain ⟨fuel, rfl⟩ : ∃ less, fuel = less + 1 := Nat.exists_eq_add_of_le' (by omega)
      have read := readEntries_entriesChars blank (depth + 1) depth rest entry others fuel readable
        back (by omega)
      rw [quoted, List.cons_append] at read
      rw [quoted]
      simp only [List.cons_append, List.append_assoc, List.nil_append]
      rw [readValue_entries room (fuel + 1) (skipped _) (by decide), read]
      simp only [Except.map, Keyed.ofPairs_of_nodup distinct]

theorem IsReadable.readsBack {layout : Layout} (blank : layout.IsBlank) {room : Nat} {value : Json}
    (readable : IsReadable room value) : ReadsBack layout room value := by
  induction readable with
  | null => exact readsBack_null layout _
  | bool value => exact readsBack_bool layout _ value
  | int short => exact readsBack_int layout _ short
  | str value => exact readsBack_str layout _ value
  | arr each ih => exact readsBack_arr blank each ih
  | obj distinct each ih => exact readsBack_obj blank distinct each ih

theorem IsReadable.read_write {layout : Layout} (blank : layout.IsBlank) {value : Json}
    (readable : IsReadable maxNesting value) {ending : String}
    (trailing : ∀ c ∈ ending.toList, isJsonBlank c = true) :
    read (value.write layout ++ ending) = .ok value := by
  obtain ⟨c, more, written, visible, -, unmarked⟩ := readable.isPlain.chars_eq_cons layout 0
  have ends : EndsNumber ending.toList := by
    have nothing : EndsNumber [] := by simp [EndsNumber]
    simpa using endsNumber_append trailing nothing
  have blankEnding : skipBlanks ending.toList = [] := by
    simpa [skipBlanks] using skipBlanks_append trailing []
  have back := readable.readsBack blank 0 (2 * (c :: more ++ ending.toList).length + 2) _ ends
    (by simp only [written, List.length_append]; omega)
  rw [written] at back
  have all : (value.write layout ++ ending).toList = c :: more ++ ending.toList := by
    rw [String.toList_append, write, String.toList_ofList, written]
  have readAll : readChars (c :: more ++ ending.toList) = .ok value := by
    rw [readChars, if_neg (by simp [unmarked])]
    rw [List.cons_append, skipBlanks_cons visible, ← List.cons_append, back]
    simp only [bind, Except.bind, blankEnding]
    rfl
  rw [read, all, readAll]
  rfl

end SchemaArtifacts.Json
