import SchemaArtifacts.Text.Substitution

/-!
# Reading items

A reader takes an item from the start of a list and returns it with what is left.  Items are read
one after another until nothing is left, or as long as a separator follows.  A reader that takes
nothing is given up, so reading ends.  An item that is a run of one kind ends where something of
another kind follows.
-/

namespace SchemaArtifacts.Text

variable {α β γ : Type}

abbrev Reader (α β : Type) := List α → Option (β × List α)

theorem span_append {p : α → Bool} {run rest : List α} (all : ∀ item ∈ run, p item = true)
    (ends : ∀ item ∈ rest.head?, p item = false) :
    (run ++ rest).takeWhile p = run ∧ (run ++ rest).dropWhile p = rest := by
  have stops : rest.takeWhile p = [] ∧ rest.dropWhile p = rest := by
    cases rest with
    | nil => exact ⟨rfl, rfl⟩
    | cons first rest => simp [ends first rfl]
  rw [List.takeWhile_append_of_pos all, List.dropWhile_append_of_pos all, stops.1, stops.2,
    List.append_nil]
  exact ⟨rfl, rfl⟩

theorem head?_dropWhile_append {p : α → Bool} {cs rest : List α}
    (ends : ∀ item ∈ rest.head?, p item = false) :
    ∀ item ∈ (cs.dropWhile p ++ rest).head?, p item = false := by
  intro item first
  have stopped := List.head?_dropWhile_not p cs
  cases left : cs.dropWhile p with
  | nil =>
      rw [left] at first
      exact ends item first
  | cons next others =>
      rw [left] at first stopped
      obtain rfl : next = item := Option.some.inj first
      simpa using stopped

def readAll (read : Reader α β) (cs : List α) : Option (List β) :=
  if cs.isEmpty then some []
  else
    match read cs with
    | none => none
    | some (item, rest) =>
      if rest.length < cs.length then (readAll read rest).map (item :: ·) else none
termination_by cs.length

theorem readAll_nil (read : Reader α β) : readAll read [] = some [] := by
  rw [readAll]
  rfl

theorem readAll_step {read : Reader α β} {item : β} {written rest : List α}
    (taken : read (written ++ rest) = some (item, rest)) (nonempty : written ≠ []) :
    readAll read (written ++ rest) = (readAll read rest).map (item :: ·) := by
  have := List.length_pos_iff.mpr nonempty
  have shorter : rest.length < (written ++ rest).length := by
    rw [List.length_append]
    omega
  rw [readAll, if_neg (by simp [nonempty])]
  simp only [taken, if_pos shorter]

theorem readAll_flatMap_append {read : Reader α β} {write : γ → List α} {value : γ → β}
    {items : List γ}
    (reads : ∀ item ∈ items, ∀ rest, read (write item ++ rest) = some (value item, rest))
    (nonempty : ∀ item ∈ items, write item ≠ []) (rest : List α) :
    readAll read (items.flatMap write ++ rest) = (readAll read rest).map (items.map value ++ ·) := by
  induction items with
  | nil => simp
  | cons item others ih =>
      have taken := reads item List.mem_cons_self (others.flatMap write ++ rest)
      have later := ih (fun other mem => reads other (List.mem_cons_of_mem _ mem))
        (fun other mem => nonempty other (List.mem_cons_of_mem _ mem))
      rw [List.flatMap_cons, List.append_assoc,
        readAll_step taken (nonempty item List.mem_cons_self), later, Option.map_map]
      rfl

theorem readAll_flatMap {read : Reader α β} {write : γ → List α} {value : γ → β} {items : List γ}
    (reads : ∀ item ∈ items, ∀ rest, read (write item ++ rest) = some (value item, rest))
    (nonempty : ∀ item ∈ items, write item ≠ []) :
    readAll read (items.flatMap write) = some (items.map value) := by
  have whole := readAll_flatMap_append reads nonempty []
  rwa [List.append_nil, readAll_nil, Option.map_some, List.append_nil] at whole

def readUntil [DecidableEq α] (closing : α) (read? : α → Option β) : Reader α (List β)
  | [] => none
  | first :: rest =>
    if first = closing then some ([], rest)
    else
      match read? first with
      | none => none
      | some item =>
        (readUntil closing read? rest).map fun (items, rest) => (item :: items, rest)

theorem readUntil_map [DecidableEq α] {closing : α} {read? : α → Option β} {write : γ → α}
    {value : γ → β} {items : List γ} (closes : read? closing = none)
    (reads : ∀ item ∈ items, read? (write item) = some (value item)) (rest : List α) :
    readUntil closing read? (items.map write ++ closing :: rest) = some (items.map value, rest) := by
  induction items with
  | nil => simp [readUntil]
  | cons item others ih =>
      have first := reads item List.mem_cons_self
      have later := ih fun other mem => reads other (List.mem_cons_of_mem _ mem)
      have open_ : write item ≠ closing := by
        intro same
        rw [same, closes] at first
        contradiction
      rw [List.map_cons, List.cons_append, readUntil, if_neg open_, later]
      simp only [first]
      rfl

def readSeparated (separator : List Char) (read : Reader Char β) (cs : List Char) :
    Option (List β × List Char) :=
  match read cs with
  | none => none
  | some (item, rest) =>
    match afterPattern? separator rest with
    | none => some ([item], rest)
    | some others =>
      if others.length < cs.length then
        (readSeparated separator read others).map fun (items, rest) => (item :: items, rest)
      else none
termination_by cs.length

theorem afterPattern?_append (pattern rest : List Char) :
    afterPattern? pattern (pattern ++ rest) = some rest :=
  afterPattern?_eq_some_iff.mpr rfl

section Separated

variable {separator : List Char} {read : Reader Char β} {item : β} {written rest : List Char}

theorem readSeparated_last (taken : read (written ++ rest) = some (item, rest))
    (ends : afterPattern? separator rest = none) :
    readSeparated separator read (written ++ rest) = some ([item], rest) := by
  rw [readSeparated]
  simp [taken, ends]

theorem readSeparated_next
    (taken : read (written ++ (separator ++ rest)) = some (item, separator ++ rest))
    (nonempty : separator ≠ []) :
    readSeparated separator read (written ++ (separator ++ rest)) =
      (readSeparated separator read rest).map fun (items, rest) => (item :: items, rest) := by
  have := List.length_pos_iff.mpr nonempty
  have shorter : rest.length < (written ++ (separator ++ rest)).length := by
    rw [List.length_append, List.length_append]
    omega
  rw [readSeparated]
  simp only [taken, afterPattern?_append, if_pos shorter]

theorem readSeparated_intercalate {write : β → List Char} {follows : List Char → Prop}
    {items : List β} (nonempty : items ≠ [])
    (reads : ∀ item ∈ items, ∀ rest, follows rest →
      read (write item ++ rest) = some (item, rest))
    (separates : separator ≠ [] ∧ ∀ rest, follows (separator ++ rest))
    (ends : follows rest ∧ afterPattern? separator rest = none) :
    readSeparated separator read (List.intercalate separator (items.map write) ++ rest) =
      some (items, rest) := by
  induction items with
  | nil => exact absurd rfl nonempty
  | cons item others ih =>
      have first := reads item List.mem_cons_self
      cases others with
      | nil =>
          have last := readSeparated_last (first rest ends.1) ends.2
          simpa [List.intercalate] using last
      | cons next others =>
          have later := ih (by simp) fun other mem => reads other (List.mem_cons_of_mem _ mem)
          have taken := first (separator ++
            (List.intercalate separator ((next :: others).map write) ++ rest)) (separates.2 _)
          have step := readSeparated_next taken separates.1
          rw [later] at step
          simpa [List.intercalate] using step

end Separated

end SchemaArtifacts.Text
