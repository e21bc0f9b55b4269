import SchemaArtifacts.Proofs.Artifact.Registry

/-!
# Refused registrations

A registration takes its kind first and then its aliases one by one.  One that is refused at an
alias has taken the kind and every alias before that one; what was registered before is left as it
was.
-/

namespace SchemaArtifacts.Artifact.Registry

open Text

variable {α : Type} {registry after : Registry α} {kind name : String} {names : List String}
variable {fault : RegistryFault}

theorem conflict?_congr {other : String} (same : lower name = lower other) :
    registry.conflict? kind name = none ↔ registry.conflict? kind other = none := by
  simp only [conflict?, same]
  split
  · simp
  · split
    · split <;> simp
    · simp

theorem conflict?_putAlias (free : registry.conflict? kind name = none) (other : String) :
    (registry.putAlias kind name).conflict? kind other = registry.conflict? kind other := by
  by_cases same : lower other = lower name
  · rw [(conflict?_congr same).mpr free]
    rw [conflict?] at free ⊢
    simp only [putAlias, Keyed.get?_put, same, if_true]
    split
    · rename_i taken
      simp [taken] at free
    · rfl
  · simp [conflict?, putAlias, Keyed.get?_put, same]

theorem conflict?_put {value : α} (other : lower name ≠ kind) :
    ({ registry with entries := Keyed.put kind value registry.entries } : Registry α).conflict?
      kind name = registry.conflict? kind name := by
  have same : Keyed.has (Keyed.put kind value registry.entries) (lower name) =
      Keyed.has registry.entries (lower name) := by
    rw [Bool.eq_iff_iff, Keyed.has_eq_true_iff, Keyed.has_eq_true_iff, Keyed.mem_keys_put]
    simp [other]
  simp only [conflict?, same]

/-- The aliases of a kind that has taken so many of its names. -/
def Takes (registry : Registry α) (kind : String) (taken : List String) (after : Registry α) :
    Prop :=
  ∀ key, Keyed.get? after.aliases key =
    if key ∈ taken.map lower ∧ key ≠ kind then some kind else Keyed.get? registry.aliases key

theorem addAliases_refused {replacing : Bool}
    (refused : registry.addAliases kind replacing names = (after, some fault)) :
    replacing = false ∧ after.entries = registry.entries ∧
      ∃ taken name rest, names = taken ++ name :: rest ∧ lower name ≠ kind ∧
        registry.conflict? kind name = some fault ∧
        (∀ earlier ∈ taken, lower earlier = kind ∨ registry.conflict? kind earlier = none) ∧
        registry.Takes kind taken after := by
  fun_induction Registry.addAliases registry kind replacing names with
  | case1 => cases refused
  | case2 registry name rest itself ih =>
      obtain ⟨kept, entries, taken, last, others, rfl, other, conflict, free, takes⟩ := ih refused
      refine ⟨kept, entries, name :: taken, last, others, rfl, other, conflict, ?_, ?_⟩
      · simpa [itself] using free
      · intro key
        rw [takes key]
        by_cases named : key = kind <;> simp [named, itself]
  | case3 registry name rest other found conflict =>
      obtain ⟨rfl, rfl⟩ : registry = after ∧ found = fault := by simpa using refused
      cases replacing with
      | true => cases conflict
      | false =>
          exact ⟨rfl, rfl, [], name, rest, rfl, other, conflict, by simp, fun key => by simp⟩
  | case4 registry name rest other free ih =>
      obtain ⟨rfl, entries, taken, last, others, rfl, proper, conflict, open_, takes⟩ := ih refused
      have free : registry.conflict? kind name = none := free
      simp only [conflict?_putAlias free] at conflict open_
      refine ⟨rfl, entries, name :: taken, last, others, rfl, proper, conflict, ?_, ?_⟩
      · simpa [free] using open_
      · intro key
        rw [takes key]
        by_cases same : key = lower name
        · simp [putAlias, Keyed.get?_put, same, other]
        · simp [putAlias, Keyed.get?_put, same]

theorem Takes.get?_eq_some (takes : registry.Takes kind names after)
    (free : ∀ name ∈ names, lower name = kind ∨ registry.conflict? kind name = none)
    (new : ∀ name, Keyed.get? registry.aliases name ≠ some kind) {key target : String}
    (held : Keyed.get? registry.aliases key = some target) :
    Keyed.get? after.aliases key = some target := by
  rw [takes key, if_neg, held]
  rintro ⟨mem, other⟩
  obtain ⟨name, taken, rfl⟩ := List.mem_map.mp mem
  have apart : target ≠ kind := by
    rintro rfl
    exact new _ held
  rcases free name taken with same | free
  · exact other same
  · rw [conflict?] at free
    split at free
    · cases free
    · simp [held, apart] at free

theorem register_some_refused {value : α} {replacing : Bool}
    (refused : registry.register kind (some value) names replacing = (after, some fault)) :
    replacing = false ∧ lower kind ∉ Keyed.keys registry.entries ∧
      after.entries = registry.entries ++ [(lower kind, value)] ∧
      ∃ taken name rest, names = taken ++ name :: rest ∧
        registry.conflict? (lower kind) name = some fault ∧
        (∀ earlier ∈ taken,
          lower earlier = lower kind ∨ registry.conflict? (lower kind) earlier = none) ∧
        registry.Takes (lower kind) taken after := by
  simp only [register] at refused
  split at refused
  · cases refused
  · rename_i absent
    obtain ⟨rfl, entries, taken, name, rest, cut, other, conflict, free, takes⟩ :=
      addAliases_refused refused
    have new : lower kind ∉ Keyed.keys registry.entries := by
      simpa [Keyed.has_eq_true_iff] using absent
    rw [conflict?_put other] at conflict
    refine ⟨rfl, new, ?_, taken, name, rest, cut, conflict, fun earlier mem => ?_, takes⟩
    · rw [entries, Keyed.put_of_not_mem new]
    · by_cases same : lower earlier = lower kind
      · exact .inl same
      · rw [← conflict?_put same]
        exact free earlier mem

/--
A refused registration leaves the registry as it was just when there was nothing to register.
Otherwise it did not replace anything: it has added its kind and the aliases before the one that is
refused, and every kind and alias of before is there still.
-/
theorem register_refused (changes : List (Change α)) {before : Registry α}
    (made : ofChanges changes = before) {candidate : Option α} {replacing : Bool}
    (refused : before.register kind candidate names replacing = (after, some fault)) :
    (after = before ↔ candidate = none) ∧
      ∀ value, candidate = some value →
        replacing = false ∧ lower kind ∉ before.kinds ∧
        after.entries = before.entries ++ [(lower kind, value)] ∧
        (∀ key target, Keyed.get? before.aliases key = some target →
          Keyed.get? after.aliases key = some target) ∧
        ∃ taken name rest, names = taken ++ name :: rest ∧
          before.conflict? (lower kind) name = some fault ∧
          (∀ earlier ∈ taken,
            lower earlier = lower kind ∨ before.conflict? (lower kind) earlier = none) ∧
          before.Takes (lower kind) taken after := by
  have closed : before.IsClosed := made ▸ isClosed_ofChanges changes
  cases candidate with
  | none =>
      obtain ⟨same, -⟩ := Prod.mk.inj refused
      exact ⟨by simp [same], by simp⟩
  | some value =>
      obtain ⟨kept, new, entries, taken, name, rest, cut, conflict, free, takes⟩ :=
        register_some_refused refused
      have unused (name : String) : Keyed.get? before.aliases name ≠ some (lower kind) :=
        fun found => new (closed _ (Keyed.mem_of_get? found))
      refine ⟨?_, ?_⟩
      · have grown : after ≠ before := by
          rintro rfl
          simp at entries
        simp [grown]
      · rintro _ ⟨⟩
        exact ⟨kept, fun mem => new (mem_kinds.mp mem), entries,
          fun key target held => takes.get?_eq_some free unused held,
          taken, name, rest, cut, conflict, free, takes⟩

def sharedAlias : List (Change Nat) := [.register "sql" (some 1) ["ddl"] false]

theorem register_refused_sharedAlias :
    ∃ after, (ofChanges sharedAlias).register "Other" (some 2) ["Fresh", "ddl", "last"] false =
        (after, some (.aliasTaken "ddl" "sql")) ∧
      "other" ∉ (ofChanges sharedAlias).kinds ∧ after.entries = [("sql", 1), ("other", 2)] ∧
      Keyed.get? after.aliases "ddl" = some "sql" := by
  obtain ⟨after, refused⟩ : ∃ after, (ofChanges sharedAlias).register "Other" (some 2)
      ["Fresh", "ddl", "last"] false = (after, some (.aliasTaken "ddl" "sql")) := ⟨_, rfl⟩
  obtain ⟨-, new, entries, kept, -⟩ := (register_refused sharedAlias rfl refused).2 2 rfl
  exact ⟨after, refused, new, entries, kept "ddl" "sql" rfl⟩

/-- The refused call leaves its kind behind, and the alias before the refused one. -/
theorem register_sharedAlias_ne :
    ∃ after, (ofChanges sharedAlias).register "Other" (some 2) ["Fresh", "ddl", "last"] false =
        (after, some (.aliasTaken "ddl" "sql")) ∧
      after.entries ≠ (ofChanges sharedAlias).entries ∧
      after.aliases ≠ (ofChanges sharedAlias).aliases ∧ after ≠ ofChanges sharedAlias := by
  refine ⟨⟨[("sql", 1), ("other", 2)], [("ddl", "sql"), ("fresh", "other")]⟩, rfl, ?_, ?_, ?_⟩
  · decide +kernel
  · decide +kernel
  · intro same
    have entries : [("sql", 1), ("other", 2)] = (ofChanges sharedAlias).entries :=
      congrArg Registry.entries same
    exact absurd entries (by decide +kernel)

end SchemaArtifacts.Artifact.Registry
