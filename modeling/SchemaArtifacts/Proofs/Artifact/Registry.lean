import SchemaArtifacts.Artifact.Registry

/-!
# Aliases of a registry

A registration that is refused half-way leaves what it did so far, and a replacement may move an
alias that another kind had.  Still no call leaves an alias behind that stands for nothing, so a
name that is resolved always leads to a value.
-/

namespace SchemaArtifacts.Artifact.Registry

open Text

variable {α : Type} {registry : Registry α}

inductive Change (α : Type)
  | register (kind : String) (candidate : Option α) (aliases : List String) (replacing : Bool)
  | unregister (kind : String)

def change (registry : Registry α) : Change α → Registry α
  | .register kind candidate aliases replacing =>
    (registry.register kind candidate aliases replacing).1
  | .unregister kind => registry.unregister kind

/-- What calls one after another make of an empty registry. -/
def ofChanges (changes : List (Change α)) : Registry α := changes.foldl change {}

theorem ofChanges_induction {p : Registry α → Prop} (empty : p {})
    (step : ∀ registry call, p registry → p (registry.change call)) (changes : List (Change α)) :
    p (ofChanges changes) := by
  suffices run : ∀ registry, p registry → p (changes.foldl change registry) from run {} empty
  induction changes with
  | nil => exact fun _ held => held
  | cons call rest ih => exact fun registry held => ih _ (step registry call held)

theorem addAliases_induction {p : Registry α → Prop} {kind : String} {replacing : Bool}
    {names : List String}
    (step : ∀ registry, ∀ name ∈ names, lower name ≠ kind →
      (if replacing then none else registry.conflict? kind name) = none →
      p registry → p (registry.putAlias kind name))
    {registry : Registry α} (held : p registry) :
    p (registry.addAliases kind replacing names).1 := by
  -- A refusal ends the list where it stands, so each alias is one step of its own.
  fun_induction Registry.addAliases registry kind replacing names with
  | case1 => exact held
  | case2 _ name rest _ ih =>
      exact ih (fun registry name mem => step registry name (List.mem_cons_of_mem _ mem)) held
  | case3 => exact held
  | case4 registry name rest other free ih =>
      exact ih (fun registry name mem => step registry name (List.mem_cons_of_mem _ mem))
        (step registry name List.mem_cons_self other free held)

def IsClosed (registry : Registry α) : Prop :=
  ∀ entry ∈ registry.aliases, entry.2 ∈ Keyed.keys registry.entries

namespace IsClosed

theorem putAlias (closed : registry.IsClosed) {kind : String}
    (registered : kind ∈ Keyed.keys registry.entries) (name : String) :
    (registry.putAlias kind name).IsClosed := by
  intro entry mem
  rcases Keyed.mem_put mem with rfl | mem
  · exact registered
  · exact closed entry mem

theorem addAliases (closed : registry.IsClosed) {kind : String}
    (registered : kind ∈ Keyed.keys registry.entries) (replacing : Bool) (names : List String) :
    (registry.addAliases kind replacing names).1.IsClosed := by
  suffices both : (registry.addAliases kind replacing names).1.IsClosed ∧
      kind ∈ Keyed.keys (registry.addAliases kind replacing names).1.entries from both.1
  apply addAliases_induction
    (p := fun registry => registry.IsClosed ∧ kind ∈ Keyed.keys registry.entries)
  · rintro registry name - - - ⟨closed, registered⟩
    exact ⟨closed.putAlias registered name, registered⟩
  · exact ⟨closed, registered⟩

theorem register (closed : registry.IsClosed) (kind : String) (candidate : Option α)
    (aliases : List String) (replacing : Bool) :
    (registry.register kind candidate aliases replacing).1.IsClosed := by
  cases candidate with
  | none => exact closed
  | some value =>
      simp only [Registry.register]
      split
      · exact closed
      · apply IsClosed.addAliases
        · intro entry mem
          exact Keyed.mem_keys_put.mpr (.inr (closed entry mem))
        · exact Keyed.mem_keys_put.mpr (.inl rfl)

theorem unregister (closed : registry.IsClosed) (kind : String) :
    (registry.unregister kind).IsClosed := by
  intro entry mem
  obtain ⟨mem, other⟩ := List.mem_filter.mp mem
  obtain ⟨held, found, same⟩ := List.mem_map.mp (closed entry mem)
  exact List.mem_map.mpr ⟨held, List.mem_filter.mpr ⟨found, by rw [same]; exact other⟩, same⟩

theorem change (closed : registry.IsClosed) (change : Change α) :
    (registry.change change).IsClosed := by
  cases change with
  | register kind candidate aliases replacing => exact closed.register kind candidate aliases replacing
  | unregister kind => exact closed.unregister kind

theorem mem_keys_of_resolve? (closed : registry.IsClosed) {name kind : String}
    (resolved : registry.resolve? name = some kind) : kind ∈ Keyed.keys registry.entries := by
  rw [resolve?] at resolved
  split at resolved
  case isTrue itself =>
    obtain rfl := Option.some.inj resolved
    exact Keyed.has_eq_true_iff.mp itself
  case isFalse => exact closed _ (Keyed.mem_of_get? resolved)

end IsClosed

theorem isClosed_ofChanges (changes : List (Change α)) : (ofChanges changes).IsClosed :=
  ofChanges_induction (fun _ mem => absurd mem List.not_mem_nil)
    (fun _ change closed => closed.change change) changes

theorem mem_kinds {kind : String} : kind ∈ registry.kinds ↔ kind ∈ Keyed.keys registry.entries :=
  List.mem_mergeSort

theorem resolve_eq_ok_iff {name kind : String} :
    registry.resolve name = .ok kind ↔ registry.resolve? name = some kind := by
  rw [resolve]
  cases registry.resolve? name with
  | none => simp
  | some found => simp

theorem isSupported_iff (registry : Registry α) (name : String) :
    registry.isSupported name = true ↔ ∃ kind, registry.resolve name = .ok kind := by
  simp only [resolve_eq_ok_iff, isSupported, resolve?, Bool.or_eq_true]
  split
  case isTrue itself => simp [itself]
  case isFalse other => simp [other, Keyed.has_eq_true_iff, Keyed.exists_get?_iff]

theorem resolve_eq_error {name : String} {fault : Fault}
    (refused : registry.resolve name = .error fault) :
    fault = .registry (.unknownKind name registry.kinds) := by
  rw [resolve] at refused
  split at refused
  · cases refused
  · exact (Except.error.inj refused).symm

theorem valueOf_of_resolve_error {name : String} {fault : Fault}
    (refused : registry.resolve name = .error fault) : registry.valueOf name = .error fault := by
  rw [valueOf, refused]
  rfl

theorem IsClosed.exists_valueOf (closed : registry.IsClosed) {name kind : String}
    (resolved : registry.resolve name = .ok kind) :
    ∃ value, (kind, value) ∈ registry.entries ∧ registry.valueOf name = .ok value := by
  have registered := closed.mem_keys_of_resolve? (resolve_eq_ok_iff.mp resolved)
  obtain ⟨value, held⟩ := Keyed.exists_get?_iff.mpr registered
  refine ⟨value, Keyed.mem_of_get? held, ?_⟩
  simp only [valueOf, resolved, bind, Except.bind, held]
  rfl

theorem IsClosed.valueOf_ne_absentKey (closed : registry.IsClosed) (name key : String) :
    registry.valueOf name ≠ .error (.absentKey key) := by
  intro absent
  cases resolved : registry.resolve name with
  | ok kind =>
      obtain ⟨value, -, found⟩ := closed.exists_valueOf resolved
      rw [found] at absent
      cases absent
  | error fault =>
      obtain rfl := resolve_eq_error resolved
      rw [valueOf_of_resolve_error resolved] at absent
      cases absent

/--
Whatever calls a registry has seen, refused ones among them, every alias stands for a registered
kind, a name is supported just when it can be resolved, and what it is resolved to is a registered
kind, whose value is found.
-/
theorem ofChanges_resolves (changes : List (Change α)) :
    (∀ entry ∈ (ofChanges changes).aliases, entry.2 ∈ (ofChanges changes).kinds) ∧
      ∀ name,
        ((ofChanges changes).isSupported name = true ↔
          ∃ kind, (ofChanges changes).resolve name = .ok kind) ∧
        (∀ kind, (ofChanges changes).resolve name = .ok kind →
          kind ∈ (ofChanges changes).kinds ∧
            ∃ value, (kind, value) ∈ (ofChanges changes).entries ∧
              (ofChanges changes).valueOf name = .ok value) ∧
        ∀ key, (ofChanges changes).valueOf name ≠ .error (.absentKey key) := by
  have closed := isClosed_ofChanges changes
  refine ⟨fun entry mem => mem_kinds.mpr (closed entry mem), fun name => ⟨?_, ?_, ?_⟩⟩
  · exact isSupported_iff _ name
  · intro kind resolved
    have registered := closed.mem_keys_of_resolve? (resolve_eq_ok_iff.mp resolved)
    exact ⟨mem_kinds.mpr registered, closed.exists_valueOf resolved⟩
  · exact closed.valueOf_ne_absentKey name

def movedAlias : List (Change Nat) :=
  [.register "SQL" (some 1) ["DDL", "sql"] false, .register "csv" (some 2) ["ddl", "table"] false,
   .register "CSV" (some 3) ["Ddl"] true, .register "page" none [] false, .unregister "Sql"]

theorem ofChanges_resolves_movedAlias :
    (ofChanges movedAlias).resolve " DDL " = .ok "csv" ∧
      (ofChanges movedAlias).isSupported " DDL " = true ∧ "csv" ∈ (ofChanges movedAlias).kinds ∧
      ∃ value, ("csv", value) ∈ (ofChanges movedAlias).entries ∧
        (ofChanges movedAlias).valueOf " DDL " = .ok value := by
  have resolved : (ofChanges movedAlias).resolve " DDL " = .ok "csv" :=
    resolve_eq_ok_iff.mpr (by decide +kernel)
  obtain ⟨supported, found, -⟩ := (ofChanges_resolves movedAlias).2 " DDL "
  obtain ⟨registered, value⟩ := found "csv" resolved
  exact ⟨resolved, supported.mpr ⟨"csv", resolved⟩, registered, value⟩

end SchemaArtifacts.Artifact.Registry
