/-!
# Keyed entries

A list of entries under text keys, in the order in which the keys first came.  Writing to a key
that is there keeps its place.
-/

namespace SchemaArtifacts

abbrev Keyed (α : Type) := List (String × α)

namespace Keyed

variable {α β : Type}

def get? (entries : Keyed α) (key : String) : Option α := List.lookup key entries

def has (entries : Keyed α) (key : String) : Bool := entries.any (·.1 == key)

def keys (entries : Keyed α) : List String := entries.map (·.1)

def put (key : String) (value : α) : Keyed α → Keyed α
  | [] => [(key, value)]
  | entry :: rest => if entry.1 = key then (key, value) :: rest else entry :: put key value rest

def erase (key : String) (entries : Keyed α) : Keyed α := entries.filter (·.1 != key)

def merge (base overrides : Keyed α) : Keyed α :=
  overrides.foldl (fun entries entry => put entry.1 entry.2 entries) base

def ofPairs (pairs : List (String × α)) : Keyed α := merge [] pairs

theorem has_eq_true_iff {entries : Keyed α} {key : String} :
    has entries key = true ↔ key ∈ keys entries := by
  simp [has, keys]

theorem get?_eq_none_iff {entries : Keyed α} {key : String} :
    get? entries key = none ↔ key ∉ keys entries := by
  rw [get?, List.lookup_eq_none_iff, keys, List.mem_map]
  constructor
  · rintro apart ⟨entry, mem, rfl⟩
    simpa using apart entry mem
  · intro absent entry mem
    rw [bne_iff_ne]
    rintro rfl
    exact absent ⟨entry, mem, rfl⟩

theorem exists_get?_iff {entries : Keyed α} {key : String} :
    (∃ value, get? entries key = some value) ↔ key ∈ keys entries := by
  rw [← Option.isSome_iff_exists, Option.isSome_iff_ne_none, ne_eq, get?_eq_none_iff,
    Decidable.not_not]

theorem mem_of_get? {entries : Keyed α} {key : String} {value : α}
    (found : get? entries key = some value) : (key, value) ∈ entries := by
  obtain ⟨before, after, written, -⟩ := List.lookup_eq_some_iff.mp found
  simp [written]

theorem get?_of_mem {entries : Keyed α} (distinct : (keys entries).Nodup) {key : String}
    {value : α} (mem : (key, value) ∈ entries) : get? entries key = some value := by
  obtain ⟨before, after, rfl⟩ := List.append_of_mem mem
  rw [keys, List.map_append, List.nodup_append] at distinct
  refine List.lookup_eq_some_iff.mpr ⟨before, after, rfl, fun entry earlier => ?_⟩
  have apart := distinct.2.2 entry.1 (List.mem_map_of_mem earlier) key (by simp)
  exact bne_iff_ne.mpr apart.symm

theorem get?_append (entries others : Keyed α) (key : String) :
    get? (entries ++ others) key = (get? entries key).or (get? others key) :=
  List.lookup_append

@[simp]
theorem get?_nil (key : String) : get? ([] : Keyed α) key = none := rfl

theorem get?_cons (key other : String) (value : α) (rest : Keyed α) :
    get? ((key, value) :: rest) other = if other = key then some value else get? rest other := by
  rw [get?, List.lookup_cons]
  by_cases same : other = key
  · simp [same]
  · have apart : (other == key) = false := beq_false_of_ne same
    rw [apart, if_neg same, get?]

theorem get?_put (key other : String) (value : α) (entries : Keyed α) :
    get? (put key value entries) other = if other = key then some value else get? entries other := by
  induction entries with
  | nil => exact get?_cons key other value []
  | cons entry rest ih =>
    obtain ⟨found, held⟩ := entry
    by_cases same : found = key
    · subst same
      rw [put, if_pos rfl, get?_cons, get?_cons]
      split <;> rfl
    · rw [put, if_neg same, get?_cons, get?_cons, ih]
      by_cases h : other = found
      · simp [h, same]
      · simp [h]

theorem keys_put (key : String) (value : α) (entries : Keyed α) :
    keys (put key value entries) =
      if key ∈ keys entries then keys entries else keys entries ++ [key] := by
  induction entries with
  | nil => simp [put, keys]
  | cons entry rest ih =>
    simp only [keys] at ih ⊢
    by_cases same : entry.1 = key
    · simp [put, same]
    · have other : key ≠ entry.1 := fun e => same e.symm
      by_cases mem : key ∈ rest.map (·.1)
      · simp [put, same, ih, mem]
      · simp [put, same, ih, mem, other]

theorem mem_keys_put {key other : String} {value : α} {entries : Keyed α} :
    other ∈ keys (put key value entries) ↔ other = key ∨ other ∈ keys entries := by
  rw [keys_put]
  split
  case isTrue present =>
    constructor
    · exact .inr
    · rintro (rfl | mem)
      · exact present
      · exact mem
  case isFalse => rw [List.mem_append, List.mem_singleton, or_comm]

theorem mem_put {key : String} {value : α} {entries : Keyed α} {entry : String × α}
    (mem : entry ∈ put key value entries) : entry = (key, value) ∨ entry ∈ entries := by
  induction entries with
  | nil => exact .inl (List.mem_singleton.mp mem)
  | cons first rest ih =>
    rw [put] at mem
    split at mem
    · rcases List.mem_cons.mp mem with same | mem
      · exact .inl same
      · exact .inr (List.mem_cons_of_mem _ mem)
    · rcases List.mem_cons.mp mem with rfl | mem
      · exact .inr List.mem_cons_self
      · exact (ih mem).imp_right (List.mem_cons_of_mem _)

theorem put_of_not_mem {key : String} {entries : Keyed α} (absent : key ∉ keys entries)
    (value : α) : put key value entries = entries ++ [(key, value)] := by
  induction entries with
  | nil => rfl
  | cons entry rest ih =>
    simp only [keys, List.map_cons, List.mem_cons, not_or] at absent ih
    have other : entry.1 ≠ key := fun e => absent.1 e.symm
    rw [put, if_neg other, ih absent.2, List.cons_append]

theorem nodup_keys_put {entries : Keyed α} (distinct : (keys entries).Nodup) (key : String)
    (value : α) : (keys (put key value entries)).Nodup := by
  rw [keys_put]
  split
  case isTrue => exact distinct
  case isFalse absent =>
    rw [List.nodup_append]
    refine ⟨distinct, by simp, ?_⟩
    rintro other mem added new rfl
    exact absent (List.mem_singleton.mp new ▸ mem)

theorem get?_filter (kept : String → Bool) (entries : Keyed α) (key : String) :
    get? (entries.filter fun entry => kept entry.1) key =
      if kept key then get? entries key else none := by
  induction entries with
  | nil => simp
  | cons entry rest ih =>
    obtain ⟨found, held⟩ := entry
    by_cases keeps : kept found = true
    · rw [List.filter_cons_of_pos (by exact keeps), get?_cons, get?_cons, ih]
      by_cases same : key = found
      · simp [same, keeps]
      · simp [same]
    · rw [List.filter_cons_of_neg (by exact keeps), get?_cons, ih]
      by_cases same : key = found
      · simp [same, keeps]
      · simp [same]

theorem get?_merge (base : Keyed α) {overrides : Keyed α} (distinct : (keys overrides).Nodup)
    (key : String) : get? (merge base overrides) key = (get? overrides key).or (get? base key) := by
  induction overrides generalizing base with
  | nil => simp [merge]
  | cons entry rest ih =>
    obtain ⟨found, held⟩ := entry
    simp only [keys, List.map_cons, List.nodup_cons] at distinct
    have later := ih (put found held base) distinct.2
    simp only [merge, List.foldl_cons] at later ⊢
    rw [later, get?_put, get?_cons]
    by_cases same : key = found
    · have absent : get? rest key = none := get?_eq_none_iff.mpr (same ▸ distinct.1)
      simp [same ▸ absent, same]
    · simp [same]

theorem ext_get? {entries others : Keyed α} (same : keys entries = keys others)
    (distinct : (keys entries).Nodup) (each : ∀ key, get? entries key = get? others key) :
    entries = others := by
  induction entries generalizing others with
  | nil => exact (List.map_eq_nil_iff.mp same.symm).symm
  | cons entry rest ih =>
    obtain ⟨_, value⟩ := entry
    obtain ⟨⟨key, other⟩, others, rfl, rfl, tail⟩ := List.map_eq_cons_iff.mp same.symm
    obtain ⟨absent, distinct⟩ := List.nodup_cons.mp distinct
    have first := each key
    rw [get?_cons, get?_cons, if_pos rfl, if_pos rfl, Option.some.injEq] at first
    rw [first, ih tail.symm distinct fun found => ?_]
    by_cases here : found = key
    · have absent' : key ∉ keys others := by
        rwa [keys, tail]
      rw [here, get?_eq_none_iff.mpr absent, get?_eq_none_iff.mpr absent']
    · have later := each found
      rwa [get?_cons, get?_cons, if_neg here, if_neg here] at later

theorem mem_merge {base overrides : Keyed α} {entry : String × α}
    (mem : entry ∈ merge base overrides) : entry ∈ base ∨ entry ∈ overrides := by
  induction overrides generalizing base with
  | nil => exact .inl mem
  | cons first rest ih =>
    have later : entry ∈ merge (put first.1 first.2 base) rest := mem
    rcases ih later with mem | mem
    · rcases mem_put mem with rfl | mem
      · exact .inr List.mem_cons_self
      · exact .inl mem
    · exact .inr (List.mem_cons_of_mem _ mem)

theorem nodup_keys_merge {base : Keyed α} (distinct : (keys base).Nodup) (overrides : Keyed α) :
    (keys (merge base overrides)).Nodup := by
  induction overrides generalizing base with
  | nil => exact distinct
  | cons entry rest ih => exact ih (nodup_keys_put distinct entry.1 entry.2)

theorem merge_of_nodup (base entries : Keyed α) (distinct : (keys (base ++ entries)).Nodup) :
    merge base entries = base ++ entries := by
  induction entries generalizing base with
  | nil => simp [merge]
  | cons entry rest ih =>
    have absent : entry.1 ∉ keys base := by
      intro mem
      rw [keys, List.map_append, List.nodup_append] at distinct
      exact distinct.2.2 entry.1 mem entry.1 (by simp) rfl
    have next := ih (base ++ [entry]) (by simpa using distinct)
    simp only [merge, List.foldl_cons] at next ⊢
    rw [put_of_not_mem absent, next, List.append_assoc, List.singleton_append]

theorem ofPairs_of_nodup {entries : List (String × α)} (distinct : (keys entries).Nodup) :
    ofPairs entries = entries :=
  merge_of_nodup [] entries distinct

theorem filter_put (kept : String → Bool) (key : String) (value : α) (entries : Keyed α) :
    (put key value entries).filter (fun entry => kept entry.1) =
      if kept key then put key value (entries.filter fun entry => kept entry.1)
      else entries.filter fun entry => kept entry.1 := by
  induction entries with
  | nil => cases keeps : kept key <;> simp [put, keeps]
  | cons entry rest ih =>
      by_cases same : entry.1 = key
      · cases keeps : kept key <;> simp [put, same, keeps]
      · cases keeps : kept key <;> cases first : kept entry.1 <;>
          simp_all [put]

theorem filter_merge (kept : String → Bool) (base overrides : Keyed α) :
    (merge base overrides).filter (fun entry => kept entry.1) =
      merge (base.filter fun entry => kept entry.1)
        (overrides.filter fun entry => kept entry.1) := by
  induction overrides generalizing base with
  | nil => rfl
  | cons entry rest ih =>
      have later := ih (put entry.1 entry.2 base)
      rw [filter_put] at later
      cases keeps : kept entry.1 with
      | true =>
          rw [List.filter_cons_of_pos (by exact keeps)]
          rw [keeps, if_pos rfl] at later
          exact later
      | false =>
          rw [List.filter_cons_of_neg (by simp [keeps])]
          rw [keeps, if_neg (by decide)] at later
          exact later

theorem get?_erase (key other : String) (entries : Keyed α) :
    get? (erase key entries) other = if other = key then none else get? entries other := by
  rw [erase, get?_filter (· != key)]
  by_cases same : other = key <;> simp [same]

theorem nodup_keys_erase {entries : Keyed α} (distinct : (keys entries).Nodup) (key : String) :
    (keys (erase key entries)).Nodup :=
  distinct.sublist (List.filter_sublist.map _)

theorem filter_erase (kept : String → Bool) {key : String} (dropped : kept key = false)
    (entries : Keyed α) :
    (erase key entries).filter (fun entry => kept entry.1) =
      entries.filter fun entry => kept entry.1 := by
  rw [erase, List.filter_filter]
  refine List.filter_congr fun entry _ => ?_
  by_cases same : entry.1 = key <;> simp [same, dropped]

end Keyed

end SchemaArtifacts
