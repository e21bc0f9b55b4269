import SchemaArtifacts.Proofs.Settings.Precedence

/-!
# Layers laid at once

A layer that is laid over the defaults of an artifact is merged into them, once its custom entries
are merged with theirs.  Settings depend on the merged entries only by name.  So overrides without
custom entries can be laid over a layer, or written into it before the layer is laid: the settings
are the same, and so is the fault where there are none.
-/

namespace SchemaArtifacts

namespace Settings

open Files

variable {base layer overrides : Keyed Json}

def overCustom (held : Keyed Json) (name : String) : Json → Json
  | .obj entries => if name = "custom" then .obj (Keyed.merge held entries) else .obj entries
  | value => value

def laidOver (held layer : Keyed Json) : Keyed Json :=
  layer.map fun entry => (entry.1, overCustom held entry.1 entry.2)

theorem overCustom_of_ne (held : Keyed Json) {name : String} (other : name ≠ "custom")
    (value : Json) : overCustom held name value = value := by
  cases value <;> simp [overCustom, other]

theorem keys_laidOver (held layer : Keyed Json) :
    Keyed.keys (laidOver held layer) = Keyed.keys layer := by
  simp [Keyed.keys, laidOver]

theorem get?_laidOver (held layer : Keyed Json) (name : String) :
    Keyed.get? (laidOver held layer) name = (Keyed.get? layer name).map (overCustom held name) := by
  induction layer with
  | nil => rfl
  | cons entry rest ih =>
      obtain ⟨found, value⟩ := entry
      rw [laidOver, List.map_cons, Keyed.get?_cons, Keyed.get?_cons, ← laidOver, ih]
      by_cases same : name = found <;> simp [same]

theorem laidOver_of_not_mem (held : Keyed Json) (absent : "custom" ∉ Keyed.keys layer) :
    laidOver held layer = layer := by
  refine (List.map_congr_left fun entry mem => ?_).trans (List.map_id layer)
  have other : entry.1 ≠ "custom" := by
    intro same
    exact absent (same ▸ List.mem_map_of_mem mem)
  rw [overCustom_of_ne held other, id]

theorem filter_unknown_laidOver (held layer : Keyed Json) :
    (laidOver held layer).filter (fun entry => !isKnown entry.1) =
      layer.filter fun entry => !isKnown entry.1 := by
  induction layer with
  | nil => rfl
  | cons entry rest ih =>
      rw [laidOver, List.map_cons, ← laidOver, List.filter_cons, List.filter_cons, ih]
      cases known : isKnown entry.1 with
      | true => rfl
      | false =>
          have other : entry.1 ≠ "custom" := by
            intro same
            rw [same] at known
            exact absurd known (by decide)
          rw [overCustom_of_ne held other]

theorem layEntry_custom (held : IsLayer base) (value : Json) :
    layEntry base ("custom", value) =
      .ok (Keyed.put "custom" (overCustom (customOf base) "custom" value) base) := by
  cases value with
  | obj entries =>
      rw [held.layEntry_custom, overCustom, if_pos rfl]
  | _ => rfl

theorem lay_of_not_mem (absent : "custom" ∉ Keyed.keys overrides) (base : Keyed Json) :
    lay base overrides = .ok (Keyed.merge base overrides) := by
  induction overrides generalizing base with
  | nil => rfl
  | cons entry rest ih =>
      obtain ⟨name, value⟩ := entry
      simp only [Keyed.keys, List.map_cons, List.mem_cons, not_or] at absent
      rw [lay, List.foldlM_cons, layEntry_of_ne (Ne.symm absent.1)]
      exact ih absent.2 (Keyed.put name value base)

theorem lay_eq_merge (below : IsLayer base) (distinct : (Keyed.keys layer).Nodup) :
    lay base layer = .ok (Keyed.merge base (laidOver (customOf base) layer)) := by
  -- Until the custom entry comes, the custom entries of the base stay as they are.
  induction layer generalizing base with
  | nil => rfl
  | cons entry rest ih =>
      obtain ⟨name, value⟩ := entry
      obtain ⟨absent, distinct⟩ := List.nodup_cons.mp distinct
      rw [lay, List.foldlM_cons]
      by_cases custom : name = "custom"
      · subst custom
        have later := lay_of_not_mem absent
          (Keyed.put "custom" (overCustom (customOf base) "custom" value) base)
        rw [layEntry_custom below, laidOver, List.map_cons, ← laidOver,
          laidOver_of_not_mem _ absent]
        exact later
      · have overlay := isOverlay_put below custom value
        have kept : customOf (Keyed.put name value base) = customOf base :=
          customOf_congr (by rw [Keyed.get?_put, if_neg (Ne.symm custom)])
        have later := ih overlay.layer distinct
        rw [kept] at later
        rw [layEntry_of_ne custom, laidOver, List.map_cons, ← laidOver,
          overCustom_of_ne _ custom]
        exact later

theorem ofEntries_congr {given other : Keyed Json} (distinct : (Keyed.keys given).Nodup)
    (distinct' : (Keyed.keys other).Nodup)
    (unknown : (given.filter fun entry => !isKnown entry.1) =
      other.filter fun entry => !isKnown entry.1)
    (custom : Keyed.get? given "custom" = Keyed.get? other "custom")
    (known : ∀ name, isKnown name = true → name ≠ "custom" →
      (Keyed.get? given name).or (value? {} name) = (Keyed.get? other name).or (value? {} name)) :
    ofEntries given = ofEntries other := by
  have same : ofKnown given = ofKnown other := by
    refine ext_value? fun name listed => ?_
    rw [value?_ofKnown distinct listed, value?_ofKnown distinct' listed]
    by_cases itself : name = "custom"
    · rw [itself, custom]
    · exact known name listed itself
  rw [ofEntries_eq, ofEntries_eq, unknown, custom, same]

theorem value?_of_ofEntries {given : Keyed Json} {settings : Settings}
    (distinct : (Keyed.keys given).Nodup) (made : ofEntries given = .ok settings) {name : String}
    (known : isKnown name = true) (other : name ≠ "custom") :
    settings.value? name = (Keyed.get? given name).or (value? {} name) := by
  rw [ofEntries_eq] at made
  split at made
  · cases made
    exact value?_ofKnown distinct known
  · obtain ⟨held, -, rfl⟩ := map_eq_ok_iff.mp made
    rw [value?_set _ (by decide), if_neg other, value?_ofKnown distinct known]

/-- Overrides that give settings only, and neither custom entries nor unknown ones. -/
structure IsKnownOnly (overrides : Keyed Json) : Prop where
  distinct : (Keyed.keys overrides).Nodup
  known : ∀ name ∈ Keyed.keys overrides, isKnown name = true ∧ name ≠ "custom"

theorem IsKnownOnly.custom_not_mem (only : IsKnownOnly overrides) :
    "custom" ∉ Keyed.keys overrides :=
  fun mem => (only.known _ mem).2 rfl

theorem IsKnownOnly.filter_unknown (only : IsKnownOnly overrides) :
    (overrides.filter fun entry => !isKnown entry.1) = [] := by
  rw [List.filter_eq_nil_iff]
  intro entry mem
  simp [(only.known _ (List.mem_map_of_mem mem)).1]

theorem filter_unknown_defaultsFor (artifact : String) :
    ((defaultsFor artifact).filter fun entry => !isKnown entry.1) = [] := by
  rw [List.filter_eq_nil_iff]
  intro entry mem
  have given : Keyed.get? (defaultsFor artifact) entry.1 = some entry.2 :=
    Keyed.get?_of_mem (isLayer_defaultsFor artifact).distinct mem
  have silent := beside?_defaultsFor artifact entry.1
  rw [beside?, given] at silent
  cases known : isKnown entry.1 <;> simp_all

/-- One layer that gives for an artifact what overrides and another layer give. -/
structure Combines (artifact : String) (overrides layer combined : Keyed Json) : Prop where
  distinct : (Keyed.keys combined).Nodup
  unknown : (combined.filter fun entry => !isKnown entry.1) =
    layer.filter fun entry => !isKnown entry.1
  custom : Keyed.get? combined "custom" = Keyed.get? layer "custom"
  known : ∀ name, isKnown name = true → name ≠ "custom" →
    firstKnown? combined [] artifact name = firstKnown? overrides layer artifact name

def mergedEntries (artifact : String) (layer overrides : Keyed Json) : Keyed Json :=
  let defaults := defaultsFor artifact
  Keyed.merge (Keyed.merge defaults (laidOver (customOf defaults) layer)) overrides

theorem resolve_eq_ofEntries (artifact : String) (distinct : (Keyed.keys layer).Nodup)
    (only : IsKnownOnly overrides) :
    resolve artifact layer overrides = ofEntries (mergedEntries artifact layer overrides) := by
  rw [resolve, lay_eq_merge (isLayer_defaultsFor artifact) distinct]
  simp only [bind, Except.bind, lay_of_not_mem only.custom_not_mem]
  rfl

theorem nodup_keys_fileLayer {tree : Tree} {file : String}
    (loaded : fileLayer tree file = .ok layer) : (Keyed.keys layer).Nodup := by
  rw [fileLayer] at loaded
  split at loaded
  · cases loaded
    exact List.nodup_nil
  · obtain ⟨-, -, text, -, read⟩ := loadFile_eq_ok_iff.mp loaded
    cases Json.hasDistinctKeys_of_read read with
    | obj distinct _ => exact distinct

theorem nodup_keys_mergedEntries (artifact : String) (layer overrides : Keyed Json) :
    (Keyed.keys (mergedEntries artifact layer overrides)).Nodup :=
  Keyed.nodup_keys_merge (Keyed.nodup_keys_merge (isLayer_defaultsFor artifact).distinct _) _

theorem get?_mergedEntries (artifact : String) (distinct : (Keyed.keys layer).Nodup)
    (only : IsKnownOnly overrides) (name : String) :
    Keyed.get? (mergedEntries artifact layer overrides) name =
      (Keyed.get? overrides name).or
        (((Keyed.get? layer name).map (overCustom (customOf (defaultsFor artifact)) name)).or
          (Keyed.get? (defaultsFor artifact) name)) := by
  have below : (Keyed.keys (laidOver (customOf (defaultsFor artifact)) layer)).Nodup := by
    rwa [keys_laidOver]
  rw [mergedEntries, Keyed.get?_merge _ only.distinct, Keyed.get?_merge _ below, get?_laidOver]

theorem filter_unknown_mergedEntries (artifact : String) (distinct : (Keyed.keys layer).Nodup)
    (only : IsKnownOnly overrides) :
    ((mergedEntries artifact layer overrides).filter fun entry => !isKnown entry.1) =
      layer.filter fun entry => !isKnown entry.1 := by
  have unknown : (Keyed.keys (layer.filter fun entry => !isKnown entry.1)).Nodup :=
    distinct.sublist (List.filter_sublist.map _)
  rw [mergedEntries, Keyed.filter_merge fun name => !isKnown name,
    Keyed.filter_merge fun name => !isKnown name, filter_unknown_defaultsFor,
    filter_unknown_laidOver, only.filter_unknown]
  exact Keyed.ofPairs_of_nodup unknown

theorem get?_mergedEntries_of_ne (artifact : String) (distinct : (Keyed.keys layer).Nodup)
    (only : IsKnownOnly overrides) {name : String} (other : name ≠ "custom") :
    (Keyed.get? (mergedEntries artifact layer overrides) name).or (value? {} name) =
      firstKnown? overrides layer artifact name := by
  have kept : overCustom (customOf (defaultsFor artifact)) name = id :=
    funext (overCustom_of_ne _ other)
  simp only [get?_mergedEntries artifact distinct only, firstKnown?, kept, Option.map_id, id,
    Option.or_assoc]

theorem value?_of_resolve {artifact : String} {settings : Settings}
    (distinct : (Keyed.keys layer).Nodup) (only : IsKnownOnly overrides)
    (made : resolve artifact layer overrides = .ok settings) {name : String}
    (known : isKnown name = true) (other : name ≠ "custom") :
    settings.value? name = firstKnown? overrides layer artifact name := by
  rw [resolve_eq_ofEntries artifact distinct only] at made
  rw [value?_of_ofEntries (nodup_keys_mergedEntries artifact layer overrides) made known other,
    get?_mergedEntries_of_ne artifact distinct only other]

theorem isKnownOnly_nil : IsKnownOnly [] := ⟨List.nodup_nil, by simp [Keyed.keys]⟩

theorem resolve_override_alone (artifact : String) (layer : Keyed Json) :
    resolve artifact [] layer = resolve artifact layer [] := by
  change lay (defaultsFor artifact) layer >>= ofEntries =
    lay (defaultsFor artifact) layer >>= fun all => ofEntries all
  rfl

theorem Combines.resolve_eq {artifact : String} {combined : Keyed Json}
    (combines : Combines artifact overrides layer combined) (distinct : (Keyed.keys layer).Nodup)
    (only : IsKnownOnly overrides) :
    resolve artifact [] combined = resolve artifact layer overrides := by
  rw [resolve_override_alone, resolve_eq_ofEntries artifact combines.distinct isKnownOnly_nil,
    resolve_eq_ofEntries artifact distinct only]
  apply ofEntries_congr
  · exact nodup_keys_mergedEntries ..
  · exact nodup_keys_mergedEntries ..
  · rw [filter_unknown_mergedEntries artifact combines.distinct isKnownOnly_nil,
      filter_unknown_mergedEntries artifact distinct only, combines.unknown]
  · have silent : Keyed.get? overrides "custom" = none :=
      Keyed.get?_eq_none_iff.mpr only.custom_not_mem
    rw [get?_mergedEntries artifact combines.distinct isKnownOnly_nil,
      get?_mergedEntries artifact distinct only, combines.custom, silent]
    rfl
  · intro name known other
    rw [get?_mergedEntries_of_ne artifact combines.distinct isKnownOnly_nil other,
      get?_mergedEntries_of_ne artifact distinct only other]
    exact combines.known name known other

end Settings

end SchemaArtifacts
