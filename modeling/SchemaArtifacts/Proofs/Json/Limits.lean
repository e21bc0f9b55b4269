import SchemaArtifacts.Fault
import SchemaArtifacts.Proofs.Json.ReadBack

/-!
# What is too large to be read

A plain value is written whatever its size, but a reader refuses numbers that are too long and
values that lie too deep.  So just the readable ones of the plain values are read back.
-/

namespace SchemaArtifacts.Json

open Text

/-- Wherever what is written of a value is read at all, there is room for the value. -/
def NeedsRoom (layout : Layout) (value : Json) : Prop :=
  ∀ (room depth fuel : Nat) (rest : List Char) (result : Json × List Char), EndsNumber rest →
    2 * (chars layout depth value).length ≤ fuel →
    readValue room fuel (chars layout depth value ++ rest) = .ok result → IsReadable room value

variable {layout : Layout} {room fuel : Nat} {cs rest after : List Char}

theorem ne_of_readValue_zero {c : Char} {result : Json × List Char}
    (read : readValue 0 fuel (c :: cs) = .ok result) : c ≠ '[' ∧ c ≠ '\x7b' := by
  constructor <;> rintro rfl <;> cases fuel <;> simp [readValue] at read

theorem needsRoom_int (layout : Layout) (value : Int) : NeedsRoom layout (int value) := by
  intro room depth fuel rest result ends _ read
  apply IsReadable.int
  cases fuel with
  | zero => simp [readValue] at read
  | succ fuel =>
      rw [chars, readValue_intChars, readNumber_intChars value ends] at read
      split at read
      · cases read
      · omega

theorem exists_readValue_of_readItems {result : List Json × List Char}
    (read : readItems room (fuel + 1) cs = .ok result) :
    ∃ found, readValue room fuel cs = .ok found := by
  rw [readItems] at read
  obtain ⟨found, first, -⟩ := bind_eq_ok_iff.mp read
  exact ⟨found, first⟩

theorem exists_readItems_next {item : Json} {result : List Json × List Char}
    (read : readItems room (fuel + 1) cs = .ok result)
    (first : readValue room fuel cs = .ok (item, rest)) (skipped : skipBlanks rest = ',' :: after) :
    ∃ others, readItems room fuel (skipBlanks after) = .ok others := by
  rw [readItems, first] at read
  simp only [bind, Except.bind, skipped] at read
  split at read
  · cases read
  · exact ⟨_, ‹_›⟩

theorem isReadable_items (blank : layout.IsBlank) (depth outer : Nat) (rest : List Char)
    (item : Json) (others : List Json) (fuel : Nat) {result : List Json × List Char}
    (plain : ∀ value ∈ item :: others, IsPlain value)
    (need : ∀ value ∈ item :: others, NeedsRoom layout value)
    (enough : 2 * (itemsChars layout depth (item :: others)).length ≤ fuel)
    (read : readItems room (fuel + 1) (itemsChars layout depth (item :: others) ++
      (layout.breakChars outer ++ ']' :: rest)) = .ok result) :
    ∀ value ∈ item :: others, IsReadable room value := by
  induction others generalizing item fuel result with
  | nil =>
      obtain ⟨ends, -⟩ := closing_chars blank outer (.inl rfl) rest
      rw [itemsChars] at enough read
      obtain ⟨found, first⟩ := exists_readValue_of_readItems read
      simpa using need item (by simp) room depth fuel _ _ ends enough first
  | cons next others ih =>
      obtain ⟨c, tail, written, visible, -⟩ :=
        itemsChars_eq_cons layout (plain next (by simp)) depth others
      obtain ⟨gap, separator, ends, skipped, skippedGap⟩ :=
        separating_chars blank depth visible (tail ++ (layout.breakChars outer ++ ']' :: rest))
      rw [itemsChars_cons] at enough read
      simp only [separator, List.length_append, List.length_cons] at enough
      obtain ⟨fuel, rfl⟩ : ∃ less, fuel = less + 1 := Nat.exists_eq_add_of_le' (by omega)
      rw [written, List.append_assoc, List.append_assoc, List.cons_append] at read
      obtain ⟨found, first⟩ := exists_readValue_of_readItems read
      have readable := need item (by simp) room depth (fuel + 1) _ _ ends (by omega) first
      have back := readable.readsBack blank depth (fuel + 1) _ ends (by omega)
      obtain ⟨items, more⟩ := exists_readItems_next read back skipped
      rw [skippedGap, ← List.cons_append, ← written] at more
      refine List.forall_mem_cons.mpr ⟨readable, ih next fuel ?_ ?_ (by omega) more⟩
      · exact fun value mem => plain value (List.mem_cons_of_mem _ mem)
      · exact fun value mem => need value (List.mem_cons_of_mem _ mem)

theorem needsRoom_arr (blank : layout.IsBlank) {items : List Json}
    (plain : ∀ item ∈ items, IsPlain item) (need : ∀ item ∈ items, NeedsRoom layout item) :
    NeedsRoom layout (arr items) := by
  intro room depth fuel rest result _ enough read
  obtain ⟨tail, opened⟩ : ∃ tail, chars layout depth (arr items) = '[' :: tail := by
    cases items with
    | nil => exact ⟨_, by rw [chars]⟩
    | cons item others => exact ⟨_, by rw [chars]; rfl⟩
  cases room with
  | zero =>
      rw [opened, List.cons_append] at read
      exact absurd rfl (ne_of_readValue_zero read).1
  | succ room =>
      apply IsReadable.arr
      cases items with
      | nil => simp
      | cons item others =>
          obtain ⟨c, tail, written, visible, unclosed, -⟩ :=
            itemsChars_eq_cons layout (plain item (by simp)) (depth + 1) others
          have skipped (more : List Char) :
              skipBlanks (layout.breakChars (depth + 1) ++ (c :: more)) = c :: more := by
            rw [skipBlanks_append (blank.breakChars (depth + 1)), skipBlanks_cons visible]
          rw [chars] at enough read
          simp only [List.length_append, List.length_cons, List.length_nil] at enough
          obtain ⟨fuel, rfl⟩ : ∃ less, fuel = less + 2 := Nat.exists_eq_add_of_le' (by omega)
          simp only [List.cons_append, List.append_assoc, List.nil_append] at read
          rw [written, List.cons_append, readValue_items room (fuel + 1) (skipped _) unclosed,
            map_eq_ok_iff, ← List.cons_append, ← written] at read
          obtain ⟨found, inner, -⟩ := read
          exact isReadable_items blank (depth + 1) depth rest item others fuel plain need (by omega)
            inner

theorem exists_readValue_of_readEntries {key : String} {result : List (String × Json) × List Char}
    (read : readEntries room (fuel + 1) (textChars key ++ ':' :: ' ' :: cs) = .ok result)
    (visible : skipBlanks (' ' :: cs) = cs) : ∃ found, readValue room fuel cs = .ok found := by
  have colon : skipBlanks (':' :: ' ' :: cs) = ':' :: ' ' :: cs := skipBlanks_cons (by decide) _
  rw [textChars_append, readEntries, readText_escapedChars] at read
  simp only [bind, Except.bind, colon, visible] at read
  split at read
  · cases read
  · exact ⟨_, ‹_›⟩

theorem exists_readEntries_next {key : String} {value : Json}
    {result : List (String × Json) × List Char}
    (read : readEntries room (fuel + 1) (textChars key ++ ':' :: ' ' :: cs) = .ok result)
    (visible : skipBlanks (' ' :: cs) = cs) (first : readValue room fuel cs = .ok (value, rest))
    (skipped : skipBlanks rest = ',' :: after) :
    ∃ others, readEntries room fuel (skipBlanks after) = .ok others := by
  have colon : skipBlanks (':' :: ' ' :: cs) = ':' :: ' ' :: cs := skipBlanks_cons (by decide) _
  rw [textChars_append, readEntries, readText_escapedChars] at read
  simp only [bind, Except.bind, colon, visible, first, skipped] at read
  split at read
  · cases read
  · exact ⟨_, ‹_›⟩

theorem isReadable_entries (blank : layout.IsBlank) (depth outer : Nat) (rest : List Char)
    (entry : String × Json) (others : List (String × Json)) (fuel : Nat)
    {result : List (String × Json) × List Char}
    (plain : ∀ found ∈ entry :: others, IsPlain found.2)
    (need : ∀ found ∈ entry :: others, NeedsRoom layout found.2)
    (enough : 2 * (entriesChars layout depth (entry :: others)).length ≤ fuel)
    (read : readEntries room (fuel + 1) (entriesChars layout depth (entry :: others) ++
      (layout.breakChars outer ++ '\x7d' :: rest)) = .ok result) :
    ∀ found ∈ entry :: others, IsReadable room found.2 := by
  induction others generalizing entry fuel result with
  | nil =>
      obtain ⟨ends, -⟩ := closing_chars blank outer (.inr rfl) rest
      obtain ⟨c, tail, written, visible, -⟩ :=
        (plain entry (by simp)).chars_eq_cons layout depth
      rw [entriesChars_last] at enough read
      simp only [List.length_append, List.length_cons] at enough
      rw [List.append_assoc, List.cons_append, List.cons_append] at read
      obtain ⟨found, first⟩ := exists_readValue_of_readEntries read (by
        rw [written, List.cons_append]
        exact skipBlanks_space visible _)
      simpa using need entry (by simp) room depth fuel _ _ ends (by omega) first
  | cons next others ih =>
      obtain ⟨c, tail, written, visible, -⟩ :=
        (plain entry (by simp)).chars_eq_cons layout depth
      obtain ⟨more, quoted⟩ := entriesChars_eq_cons layout depth next others
      obtain ⟨gap, separator, ends, skipped, skippedGap⟩ :=
        separating_chars blank depth (c := '"') (by decide)
          (more ++ (layout.breakChars outer ++ '\x7d' :: rest))
      rw [entriesChars_cons] at enough read
      simp only [separator, List.length_append, List.length_cons] at enough
      obtain ⟨fuel, rfl⟩ : ∃ less, fuel = less + 1 := Nat.exists_eq_add_of_le' (by omega)
      simp only [quoted, List.append_assoc, List.cons_append] at read
      have shown : skipBlanks (' ' :: (chars layout depth entry.2 ++
          (layout.separatorChars depth ++ '"' :: (more ++
            (layout.breakChars outer ++ '\x7d' :: rest))))) =
          chars layout depth entry.2 ++ (layout.separatorChars depth ++ '"' :: (more ++
            (layout.breakChars outer ++ '\x7d' :: rest))) := by
        rw [written, List.cons_append]
        exact skipBlanks_space visible _
      obtain ⟨found, first⟩ := exists_readValue_of_readEntries read shown
      have readable := need entry (by simp) room depth (fuel + 1) _ _ ends (by omega) first
      have back := readable.readsBack blank depth (fuel + 1) _ ends (by omega)
      obtain ⟨entries, later⟩ := exists_readEntries_next read shown back skipped
      rw [skippedGap, ← List.cons_append, ← quoted] at later
      refine List.forall_mem_cons.mpr ⟨readable, ih next fuel ?_ ?_ (by omega) later⟩
      · exact fun found mem => plain found (List.mem_cons_of_mem _ mem)
      · exact fun found mem => need found (List.mem_cons_of_mem _ mem)

theorem needsRoom_obj (blank : layout.IsBlank) {entries : List (String × Json)}
    (distinct : (Keyed.keys entries).Nodup) (plain : ∀ entry ∈ entries, IsPlain entry.2)
    (need : ∀ entry ∈ entries, NeedsRoom layout entry.2) : NeedsRoom layout (obj entries) := by
  intro room depth fuel rest result _ enough read
  obtain ⟨tail, opened⟩ : ∃ tail, chars layout depth (obj entries) = '\x7b' :: tail := by
    cases entries with
    | nil => exact ⟨_, by rw [chars]⟩
    | cons entry others => exact ⟨_, by rw [chars]; rfl⟩
  cases room with
  | zero =>
      rw [opened, List.cons_append] at read
      exact absurd rfl (ne_of_readValue_zero read).2
  | succ room =>
      apply IsReadable.obj distinct
      cases entries with
      | nil => simp
      | cons entry others =>
          obtain ⟨more, quoted⟩ := entriesChars_eq_cons layout (depth + 1) entry others
          have skipped (tail : List Char) :
              skipBlanks (layout.breakChars (depth + 1) ++ ('"' :: tail)) = '"' :: tail := by
            rw [skipBlanks_append (blank.breakChars (depth + 1)), skipBlanks_cons (by decide)]
          rw [chars] at enough read
          simp only [List.length_append, List.length_cons, List.length_nil] at enough
          obtain ⟨fuel, rfl⟩ : ∃ less, fuel = less + 2 := Nat.exists_eq_add_of_le' (by omega)
          simp only [List.cons_append, List.append_assoc, List.nil_append] at read
          rw [quoted, List.cons_append, readValue_entries room (fuel + 1) (skipped _) (by decide),
            map_eq_ok_iff, ← List.cons_append, ← quoted] at read
          obtain ⟨found, inner, -⟩ := read
          exact isReadable_entries blank (depth + 1) depth rest entry others fuel plain need
            (by omega) inner

theorem IsPlain.needsRoom (blank : layout.IsBlank) {value : Json} (plain : IsPlain value) :
    NeedsRoom layout value := by
  induction plain with
  | null => exact fun _ _ _ _ _ _ _ _ => .null
  | bool value => exact fun _ _ _ _ _ _ _ _ => .bool value
  | int value => exact needsRoom_int layout value
  | str value => exact fun _ _ _ _ _ _ _ _ => .str value
  | arr each ih => exact needsRoom_arr blank each ih
  | obj distinct each ih => exact needsRoom_obj blank distinct each ih

theorem IsPlain.read_write_iff (blank : layout.IsBlank) {value found : Json}
    (plain : IsPlain value) :
    read (value.write layout) = .ok found ↔ found = value ∧ IsReadable maxNesting value := by
  have back (readable : IsReadable maxNesting value) : read (value.write layout) = .ok value := by
    have nothing : ∀ c ∈ "".toList, isJsonBlank c = true := by simp
    simpa using readable.read_write blank nothing
  constructor
  · intro done
    have readable : IsReadable maxNesting value := by
      obtain ⟨c, more, written, visible, -, unmarked⟩ := plain.chars_eq_cons layout 0
      rw [read, mapError_eq_ok_iff, write, String.toList_ofList, readChars, written,
        if_neg (by simp [unmarked]), skipBlanks_cons visible, ← written] at done
      obtain ⟨result, first, -⟩ := bind_eq_ok_iff.mp done
      have nothing : EndsNumber [] := by simp [EndsNumber]
      refine plain.needsRoom blank _ 0 _ [] result nothing ?_ (by simpa using first)
      omega
    rw [back readable] at done
    exact ⟨(Except.ok.inj done).symm, readable⟩
  · rintro ⟨rfl, readable⟩
    exact back readable

end SchemaArtifacts.Json
