import SchemaArtifacts.Artifact.Maker
import SchemaArtifacts.Proofs.Artifact.Registry
import SchemaArtifacts.Proofs.Text.LetterCase

/-!
# Names of a registry

A registry lists every kind with its names.  A name that is asked for is trimmed, and a kind comes
before an alias; so the listed names lead back to their kinds as long as no kind has taken an alias
and trimming does not lead away from a kind.
-/

namespace SchemaArtifacts.Artifact.Registry

open Text

variable {α : Type} {registry : Registry α}

/-- Kinds and aliases are in lower case, an alias is there once, and no kind is its own alias. -/
structure IsOrdered (registry : Registry α) : Prop where
  lowerKind : ∀ kind ∈ Keyed.keys registry.entries, lower kind = kind
  lowerAlias : ∀ name ∈ Keyed.keys registry.aliases, lower name = name
  distinct : (Keyed.keys registry.aliases).Nodup
  proper : ∀ entry ∈ registry.aliases, entry.1 ≠ entry.2

namespace IsOrdered

theorem putAlias (ordered : registry.IsOrdered) {kind name : String} (other : lower name ≠ kind) :
    (registry.putAlias kind name).IsOrdered where
  lowerKind := ordered.lowerKind
  lowerAlias := by
    intro found mem
    rcases Keyed.mem_keys_put.mp mem with rfl | mem
    · exact lower_lower name
    · exact ordered.lowerAlias found mem
  distinct := Keyed.nodup_keys_put ordered.distinct _ _
  proper := by
    intro entry mem
    rcases Keyed.mem_put mem with rfl | mem
    · exact other
    · exact ordered.proper entry mem

theorem register (ordered : registry.IsOrdered) (kind : String) (candidate : Option α)
    (names : List String) (replacing : Bool) :
    (registry.register kind candidate names replacing).1.IsOrdered := by
  cases candidate with
  | none => exact ordered
  | some value =>
      simp only [Registry.register]
      split
      · exact ordered
      · apply addAliases_induction fun registry name _ other _ ordered => ordered.putAlias other
        refine ⟨?_, ordered.lowerAlias, ordered.distinct, ordered.proper⟩
        intro found mem
        rcases Keyed.mem_keys_put.mp mem with rfl | mem
        · exact lower_lower kind
        · exact ordered.lowerKind found mem

theorem unregister (ordered : registry.IsOrdered) (kind : String) :
    (registry.unregister kind).IsOrdered where
  lowerKind := fun found mem =>
    ordered.lowerKind found ((List.filter_sublist.map _).mem mem)
  lowerAlias := fun found mem =>
    ordered.lowerAlias found ((List.filter_sublist.map _).mem mem)
  distinct := ordered.distinct.sublist (List.filter_sublist.map _)
  proper := fun entry mem => ordered.proper entry (List.mem_of_mem_filter mem)

theorem change (ordered : registry.IsOrdered) (change : Change α) :
    (registry.change change).IsOrdered := by
  cases change with
  | register kind candidate names replacing =>
      exact ordered.register kind candidate names replacing
  | unregister kind => exact ordered.unregister kind

end IsOrdered

theorem isOrdered_ofChanges (changes : List (Change α)) : (ofChanges changes).IsOrdered := by
  apply ofChanges_induction
  · exact ⟨by simp [Keyed.keys], by simp [Keyed.keys], List.nodup_nil, by simp⟩
  · exact fun registry change ordered => ordered.change change

def Lists (registry : Registry α) (kind name : String) : Prop :=
  ∃ names, (kind, names) ∈ registry.names ∧ name ∈ names

theorem mem_aliasesOf {kind name : String} :
    name ∈ registry.aliasesOf kind ↔ (name, lower kind) ∈ registry.aliases := by
  rw [aliasesOf, sorted, List.mem_mergeSort, Keyed.keys, List.mem_map]
  constructor
  · rintro ⟨entry, mem, rfl⟩
    obtain ⟨mem, same⟩ := List.mem_filter.mp mem
    rw [← beq_iff_eq.mp same]
    exact mem
  · intro mem
    exact ⟨_, List.mem_filter.mpr ⟨mem, beq_self_eq_true _⟩, rfl⟩

theorem IsOrdered.lists_iff (ordered : registry.IsOrdered) {kind name : String} :
    registry.Lists kind name ↔
      kind ∈ registry.kinds ∧ (name = kind ∨ (name, kind) ∈ registry.aliases) := by
  rw [mem_kinds]
  constructor
  · rintro ⟨names, mem, listed⟩
    obtain ⟨entry, held, same⟩ := List.mem_map.mp mem
    cases same
    have registered : entry.1 ∈ Keyed.keys registry.entries := List.mem_map_of_mem held
    refine ⟨registered, (List.mem_cons.mp listed).imp_right fun listed => ?_⟩
    rwa [mem_aliasesOf, ordered.lowerKind _ registered] at listed
  · rintro ⟨registered, named⟩
    obtain ⟨entry, held, rfl⟩ := List.mem_map.mp registered
    refine ⟨_, List.mem_map_of_mem held, List.mem_cons.mpr (named.imp_right fun named => ?_)⟩
    rwa [mem_aliasesOf, ordered.lowerKind _ registered]

theorem IsOrdered.lower_of_lists (ordered : registry.IsOrdered) {kind name : String}
    (listed : registry.Lists kind name) : lower name = name := by
  obtain ⟨registered, rfl | named⟩ := ordered.lists_iff.mp listed
  · exact ordered.lowerKind _ (mem_kinds.mp registered)
  · exact ordered.lowerAlias name (List.mem_map_of_mem named)

def IsUnambiguous (registry : Registry α) : Prop :=
  ∀ name ∈ Keyed.keys registry.aliases, name ∉ registry.kinds

theorem IsOrdered.resolve?_eq_some_iff (ordered : registry.IsOrdered) {name kind : String}
    (settled : lower name = name) :
    registry.resolve? name = some kind ↔
      trim name ∈ registry.kinds ∧ trim name = kind ∨
        trim name ∉ registry.kinds ∧ (trim name, kind) ∈ registry.aliases := by
  have key : lower (trim name) = trim name := by
    rw [← settled]
    exact lower_trim_lower name
  have stands : Keyed.get? registry.aliases (trim name) = some kind ↔
      (trim name, kind) ∈ registry.aliases :=
    ⟨Keyed.mem_of_get?, Keyed.get?_of_mem ordered.distinct⟩
  simp only [resolve?, key, Keyed.has_eq_true_iff, mem_kinds]
  split
  case isTrue itself => simp [itself]
  case isFalse other => simp [other, stands]

theorem IsOrdered.listed_once_iff (ordered : registry.IsOrdered) (closed : registry.IsClosed) :
    (∀ name kind other, registry.Lists kind name → registry.Lists other name → kind = other) ↔
      registry.IsUnambiguous := by
  constructor
  · intro once name mem registered
    obtain ⟨⟨found, kind⟩, named, rfl⟩ := List.mem_map.mp mem
    have itself : registry.Lists found found := ordered.lists_iff.mpr ⟨registered, .inl rfl⟩
    have taken : registry.Lists kind found :=
      ordered.lists_iff.mpr ⟨mem_kinds.mpr (closed _ named), .inr named⟩
    exact ordered.proper _ named (once found found kind itself taken)
  · intro unambiguous name kind other listed again
    obtain ⟨registered, named⟩ := ordered.lists_iff.mp listed
    obtain ⟨registered', named'⟩ := ordered.lists_iff.mp again
    rcases named with rfl | named <;> rcases named' with rfl | named'
    · rfl
    · exact absurd registered (unambiguous _ (List.mem_map_of_mem named'))
    · exact absurd registered' (unambiguous _ (List.mem_map_of_mem named))
    · have found := Keyed.get?_of_mem ordered.distinct named
      rw [Keyed.get?_of_mem ordered.distinct named'] at found
      exact (Option.some.inj found).symm

theorem IsOrdered.listed_resolve_iff (ordered : registry.IsOrdered) (closed : registry.IsClosed) :
    (∀ kind name, registry.Lists kind name → registry.resolve name = .ok kind) ↔
      registry.IsUnambiguous ∧
        ∀ kind name, registry.Lists kind name → registry.Lists kind (trim name) := by
  constructor
  · intro leads
    constructor
    · refine (ordered.listed_once_iff closed).mp fun name kind other listed again => ?_
      have same := leads kind name listed
      rw [leads other name again] at same
      exact (Except.ok.inj same).symm
    · intro kind name listed
      have found := resolve_eq_ok_iff.mp (leads kind name listed)
      rw [ordered.resolve?_eq_some_iff (ordered.lower_of_lists listed)] at found
      obtain ⟨registered, -⟩ := ordered.lists_iff.mp listed
      refine ordered.lists_iff.mpr ⟨registered, ?_⟩
      rcases found with ⟨-, same⟩ | ⟨-, named⟩
      · exact .inl same
      · exact .inr named
  · rintro ⟨unambiguous, trimmed⟩ kind name listed
    rw [resolve_eq_ok_iff, ordered.resolve?_eq_some_iff (ordered.lower_of_lists listed)]
    obtain ⟨registered, same | named⟩ := ordered.lists_iff.mp (trimmed kind name listed)
    · exact .inl ⟨same ▸ registered, same⟩
    · exact .inr ⟨unambiguous _ (List.mem_map_of_mem named), named⟩

/-! ## Calls that keep every name in its place -/

def Change.IsCareful (registry : Registry α) : Change α → Prop
  | .register kind _ names replacing =>
      trim (lower kind) = lower kind ∧ (∀ name ∈ names, trim (lower name) = lower name) ∧
        lower kind ∉ Keyed.keys registry.aliases ∧
        (replacing = true → ∀ name ∈ names, lower name ∈ registry.kinds → lower name = lower kind)
  | .unregister _ => True

/-- Each of the calls is careful with the registry that it finds. -/
def AreCareful (registry : Registry α) : List (Change α) → Prop
  | [] => True
  | call :: rest => call.IsCareful registry ∧ AreCareful (registry.change call) rest

instance (registry : Registry α) : (call : Change α) → Decidable (call.IsCareful registry)
  | .register _ _ _ _ => inferInstanceAs (Decidable (_ ∧ _ ∧ _ ∧ _))
  | .unregister _ => inferInstanceAs (Decidable True)

instance decidableAreCareful : (registry : Registry α) → (calls : List (Change α)) →
    Decidable (AreCareful registry calls)
  | _, [] => inferInstanceAs (Decidable True)
  | registry, call :: rest =>
      have := decidableAreCareful (registry.change call) rest
      inferInstanceAs (Decidable (_ ∧ _))

structure IsClear (registry : Registry α) : Prop where
  unambiguous : registry.IsUnambiguous
  trimmedKind : ∀ kind ∈ Keyed.keys registry.entries, trim kind = kind
  trimmedAlias : ∀ name ∈ Keyed.keys registry.aliases, trim name = name

namespace IsClear

theorem putAlias (clear : registry.IsClear) {kind name : String} (free : lower name ∉ registry.kinds)
    (trimmed : trim (lower name) = lower name) : (registry.putAlias kind name).IsClear where
  unambiguous := by
    intro found mem
    rcases Keyed.mem_keys_put.mp mem with rfl | mem
    · exact free
    · exact clear.unambiguous found mem
  trimmedKind := clear.trimmedKind
  trimmedAlias := by
    intro found mem
    rcases Keyed.mem_keys_put.mp mem with rfl | mem
    · exact trimmed
    · exact clear.trimmedAlias found mem

theorem addAliases (clear : registry.IsClear) {kind : String} {names : List String}
    {replacing : Bool} (trimmed : ∀ name ∈ names, trim (lower name) = lower name)
    (apart : replacing = true → ∀ name ∈ names, lower name ∈ registry.kinds → lower name = kind) :
    (registry.addAliases kind replacing names).1.IsClear := by
  suffices both : (registry.addAliases kind replacing names).1.IsClear ∧
      (registry.addAliases kind replacing names).1.kinds = registry.kinds from both.1
  apply addAliases_induction (p := fun added => added.IsClear ∧ added.kinds = registry.kinds)
  · rintro added name mem other free ⟨clear, same⟩
    refine ⟨clear.putAlias ?_ (trimmed name mem), same⟩
    intro registered
    cases replacing with
    | true => exact other (apart rfl name mem (same ▸ registered))
    | false => simp [conflict?, Keyed.has_eq_true_iff.mpr (mem_kinds.mp registered)] at free
  · exact ⟨clear, rfl⟩

theorem change (clear : registry.IsClear) {call : Change α} (careful : call.IsCareful registry) :
    (registry.change call).IsClear := by
  cases call with
  | unregister kind =>
      exact
        { unambiguous := fun name mem registered =>
            clear.unambiguous name ((List.filter_sublist.map _).mem mem)
              (mem_kinds.mpr ((List.filter_sublist.map _).mem (mem_kinds.mp registered)))
          trimmedKind := fun kind mem => clear.trimmedKind kind ((List.filter_sublist.map _).mem mem)
          trimmedAlias := fun name mem =>
            clear.trimmedAlias name ((List.filter_sublist.map _).mem mem) }
  | register kind candidate names replacing =>
      obtain ⟨trimmedKind, trimmed, free, apart⟩ := careful
      cases candidate with
      | none => exact clear
      | some value =>
          simp only [Registry.change, Registry.register]
          split
          · exact clear
          · apply addAliases
            · refine ⟨?_, ?_, clear.trimmedAlias⟩
              · intro name mem registered
                rcases Keyed.mem_keys_put.mp (mem_kinds.mp registered) with rfl | registered
                · exact free mem
                · exact clear.unambiguous name mem (mem_kinds.mpr registered)
              · intro found mem
                rcases Keyed.mem_keys_put.mp mem with rfl | mem
                · exact trimmedKind
                · exact clear.trimmedKind found mem
            · exact trimmed
            · intro replaces name mem registered
              rcases Keyed.mem_keys_put.mp (mem_kinds.mp registered) with same | registered
              · exact same
              · exact apart replaces name mem (mem_kinds.mpr registered)

theorem changes (clear : registry.IsClear) {calls : List (Change α)}
    (careful : AreCareful registry calls) : (calls.foldl Registry.change registry).IsClear := by
  induction calls generalizing registry with
  | nil => exact clear
  | cons call rest ih => exact ih (clear.change careful.1) careful.2

theorem trim_of_lists (clear : registry.IsClear) (ordered : registry.IsOrdered) {kind name : String}
    (listed : registry.Lists kind name) : trim name = name := by
  obtain ⟨registered, rfl | named⟩ := ordered.lists_iff.mp listed
  · exact clear.trimmedKind _ (mem_kinds.mp registered)
  · exact clear.trimmedAlias name (List.mem_map_of_mem named)

end IsClear

theorem isClear_ofChanges {changes : List (Change α)} (careful : AreCareful {} changes) :
    (ofChanges changes).IsClear :=
  IsClear.changes ⟨by simp [IsUnambiguous, Keyed.keys], by simp [Keyed.keys], by simp [Keyed.keys]⟩
    careful

/--
After any calls, every name leads to each kind that it is listed under just when no kind is an alias
and a trimmed name is listed wherever the name is; no name is listed under two kinds just when no
kind is an alias.  Both hold after calls that are careful.
-/
theorem listed_names_resolve_iff (changes : List (Change α)) :
    ((∀ kind name, (ofChanges changes).Lists kind name →
        (ofChanges changes).resolve name = .ok kind) ↔
      (ofChanges changes).IsUnambiguous ∧
        ∀ kind name, (ofChanges changes).Lists kind name →
          (ofChanges changes).Lists kind (trim name)) ∧
      ((∀ name kind other, (ofChanges changes).Lists kind name →
          (ofChanges changes).Lists other name → kind = other) ↔
        (ofChanges changes).IsUnambiguous) ∧
      (AreCareful {} changes → ∀ kind name, (ofChanges changes).Lists kind name →
        (ofChanges changes).resolve name = .ok kind) := by
  have ordered := isOrdered_ofChanges changes
  have closed := isClosed_ofChanges changes
  have leads := ordered.listed_resolve_iff closed
  refine ⟨leads, ordered.listed_once_iff closed, fun careful => leads.mpr ?_⟩
  have clear := isClear_ofChanges careful
  refine ⟨clear.unambiguous, fun kind name listed => ?_⟩
  rwa [clear.trim_of_lists ordered listed]

def builtinCalls : List (Change Maker) :=
  Kind.all.map fun kind => .register kind.tag (some kind.maker) kind.aliases false

theorem builtinCalls_careful : AreCareful {} builtinCalls := by
  decide +kernel

theorem listed_names_resolve_builtin :
    AreCareful {} builtinCalls ∧ ofChanges builtinCalls = builtin ∧
      ∀ kind name, builtin.Lists kind name → builtin.resolve name = .ok kind := by
  have made : ofChanges builtinCalls = builtin := rfl
  refine ⟨builtinCalls_careful, made, ?_⟩
  rw [← made]
  exact (listed_names_resolve_iff builtinCalls).2.2 builtinCalls_careful

def takenAlias : List (Change Nat) :=
  [.register "sql" (some 1) ["ddl"] false, .register "ddl" (some 2) [] false]

/-- Then the alias is listed twice, and leads to one of the two only. -/
theorem listed_name_lost_takenAlias :
    (ofChanges takenAlias).names = [("sql", ["sql", "ddl"]), ("ddl", ["ddl"])] ∧
      (ofChanges takenAlias).resolve "ddl" = .ok "ddl" ∧
      ¬ ∀ kind name, (ofChanges takenAlias).Lists kind name →
        (ofChanges takenAlias).resolve name = .ok kind := by
  have names : (ofChanges takenAlias).names = [("sql", ["sql", "ddl"]), ("ddl", ["ddl"])] := by
    decide +kernel
  have found : (ofChanges takenAlias).resolve "ddl" = .ok "ddl" :=
    resolve_eq_ok_iff.mpr (by decide +kernel)
  refine ⟨names, found, fun leads => ?_⟩
  have lost := leads "sql" "ddl" ⟨["sql", "ddl"], by simp [names], by simp⟩
  rw [found] at lost
  exact absurd (Except.ok.inj lost) (by decide)

end SchemaArtifacts.Artifact.Registry
