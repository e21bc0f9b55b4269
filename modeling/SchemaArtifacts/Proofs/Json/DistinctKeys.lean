import SchemaArtifacts.Fault

/-!
# Keys of what is read

Whatever text a value is read from, no object in it has a key twice.
-/

namespace SchemaArtifacts.Json

inductive HasDistinctKeys : Json → Prop
  | null : HasDistinctKeys null
  | bool (value : Bool) : HasDistinctKeys (bool value)
  | int (value : Int) : HasDistinctKeys (int value)
  | float (value : Binary64) : HasDistinctKeys (float value)
  | str (value : String) : HasDistinctKeys (str value)
  | arr {items : List Json} (each : ∀ item ∈ items, HasDistinctKeys item) :
      HasDistinctKeys (arr items)
  | obj {entries : List (String × Json)} (distinct : (Keyed.keys entries).Nodup)
      (each : ∀ entry ∈ entries, HasDistinctKeys entry.2) : HasDistinctKeys (obj entries)

theorem hasDistinctKeys_numberValue (negative : Bool) (whole fraction : List Char)
    (exponent : Option Int) : HasDistinctKeys (numberValue negative whole fraction exponent) := by
  rw [numberValue]
  split
  · exact .int _
  · exact .float _

theorem hasDistinctKeys_readNumber {cs rest : List Char} {value : Json}
    (read : readNumber cs = .ok (value, rest)) : HasDistinctKeys value := by
  rw [readNumber] at read
  simp only at read
  split at read
  · cases read
  · split at read
    · cases read
    · cases read
      exact hasDistinctKeys_numberValue _ _ _ _

theorem hasDistinctKeys_constants : ∀ entry ∈ constants, HasDistinctKeys entry.2 := by
  simp [constants, HasDistinctKeys.null, HasDistinctKeys.bool, HasDistinctKeys.float]

theorem hasDistinctKeys_readConstant? {cs rest : List Char} {value : Json}
    (read : readConstant? cs = some (value, rest)) : HasDistinctKeys value := by
  obtain ⟨entry, mem, found⟩ := List.exists_of_findSome?_eq_some read
  obtain ⟨rest, -, same⟩ := Option.map_eq_some_iff.mp found
  cases same
  exact hasDistinctKeys_constants entry mem

theorem hasDistinctKeys_ofPairs {entries : List (String × Json)}
    (each : ∀ entry ∈ entries, HasDistinctKeys entry.2) :
    HasDistinctKeys (obj (Keyed.ofPairs entries)) := by
  apply HasDistinctKeys.obj
  · exact @Keyed.nodup_keys_merge _ [] List.nodup_nil entries
  · intro entry mem
    rcases Keyed.mem_merge mem with mem | mem
    · exact absurd mem List.not_mem_nil
    · exact each entry mem

/-- With so much fuel, values, items and entries are read without a key twice in an object. -/
structure ReadsDistinct (fuel : Nat) : Prop where
  value : ∀ {room : Nat} {cs rest : List Char} {value : Json},
    readValue room fuel cs = .ok (value, rest) → HasDistinctKeys value
  items : ∀ {room : Nat} {cs rest : List Char} {items : List Json},
    readItems room fuel cs = .ok (items, rest) → ∀ item ∈ items, HasDistinctKeys item
  entries : ∀ {room : Nat} {cs rest : List Char} {entries : List (String × Json)},
    readEntries room fuel cs = .ok (entries, rest) → ∀ entry ∈ entries, HasDistinctKeys entry.2

namespace ReadsDistinct

variable {room fuel : Nat} {cs rest : List Char}

theorem readValue (ih : ReadsDistinct fuel) {value : Json}
    (read : Json.readValue room (fuel + 1) cs = .ok (value, rest)) : HasDistinctKeys value := by
  unfold Json.readValue at read
  split at read
  case h_1 =>
    obtain ⟨⟨content, more⟩, -, same⟩ := bind_eq_ok_iff.mp read
    cases same
    exact .str _
  case h_2 => cases read
  case h_3 => cases read
  case h_4 =>
    split at read
    · cases read
      exact .arr (by simp)
    · obtain ⟨⟨items, more⟩, others, same⟩ := bind_eq_ok_iff.mp read
      cases same
      exact .arr (ih.items others)
  case h_5 =>
    split at read
    · cases read
      exact .obj List.nodup_nil (by simp)
    · obtain ⟨⟨entries, more⟩, others, same⟩ := bind_eq_ok_iff.mp read
      cases same
      exact hasDistinctKeys_ofPairs (ih.entries others)
  case h_6 =>
    split at read
    case h_1 constant =>
      cases read
      exact hasDistinctKeys_readConstant? constant
    case h_2 => exact hasDistinctKeys_readNumber read

theorem readItems (ih : ReadsDistinct fuel) {items : List Json}
    (read : Json.readItems room (fuel + 1) cs = .ok (items, rest)) :
    ∀ item ∈ items, HasDistinctKeys item := by
  unfold Json.readItems at read
  obtain ⟨⟨item, more⟩, first, read⟩ := bind_eq_ok_iff.mp read
  have one := ih.value first
  simp only at read
  split at read
  · cases read
    simpa using one
  · obtain ⟨⟨others, last⟩, later, same⟩ := bind_eq_ok_iff.mp read
    cases same
    exact List.forall_mem_cons.mpr ⟨one, ih.items later⟩
  · cases read

theorem readEntries (ih : ReadsDistinct fuel) {entries : List (String × Json)}
    (read : Json.readEntries room (fuel + 1) cs = .ok (entries, rest)) :
    ∀ entry ∈ entries, HasDistinctKeys entry.2 := by
  unfold Json.readEntries at read
  split at read
  · obtain ⟨⟨key, more⟩, -, read⟩ := bind_eq_ok_iff.mp read
    simp only at read
    split at read
    · obtain ⟨⟨value, more⟩, first, read⟩ := bind_eq_ok_iff.mp read
      have one := ih.value first
      simp only at read
      split at read
      · cases read
        simpa using one
      · obtain ⟨⟨others, last⟩, later, same⟩ := bind_eq_ok_iff.mp read
        cases same
        exact List.forall_mem_cons.mpr ⟨one, ih.entries later⟩
      · cases read
    · cases read
  · cases read

end ReadsDistinct

theorem readsDistinct (fuel : Nat) : ReadsDistinct fuel := by
  induction fuel with
  | zero =>
      constructor <;> intro room cs rest result read
      · simp [readValue] at read
      · simp [readItems] at read
      · simp [readEntries] at read
  | succ fuel ih => exact ⟨ih.readValue, ih.readItems, ih.readEntries⟩

theorem hasDistinctKeys_readChars {cs : List Char} {value : Json}
    (found : readChars cs = .ok value) : HasDistinctKeys value := by
  rw [readChars] at found
  split at found
  · cases found
  · obtain ⟨⟨first, rest⟩, read, found⟩ := bind_eq_ok_iff.mp found
    simp only at found
    split at found
    · cases found
      exact (readsDistinct _).value read
    · cases found

theorem hasDistinctKeys_of_read {s : String} {value : Json} (found : read s = .ok value) :
    HasDistinctKeys value := by
  rw [read, mapError_eq_ok_iff] at found
  exact hasDistinctKeys_readChars found

end SchemaArtifacts.Json
