import SchemaArtifacts.Settings.Storage

/-!
# What layers of settings hold

A layer that is laid over another one hides it entry by entry, and its custom entries hide those of
the other in the same way.  Settings are then made of the entries that are left, with the unknown
ones written over the custom ones.
-/

namespace SchemaArtifacts.Settings

open Files

def customOf (layer : Keyed Json) : Keyed Json :=
  ((Keyed.get? layer "custom").bind Json.obj?).getD []

theorem customOf_congr {layer other : Keyed Json}
    (same : Keyed.get? layer "custom" = Keyed.get? other "custom") :
    customOf layer = customOf other := by
  rw [customOf, same, customOf]

theorem customOf_of_none {layer : Keyed Json} (absent : Keyed.get? layer "custom" = none) :
    customOf layer = [] := by
  rw [customOf, absent]
  rfl

theorem customOf_of_some {layer held : Keyed Json}
    (found : Keyed.get? layer "custom" = some (.obj held)) : customOf layer = held := by
  rw [customOf, found]
  rfl

/-- No key is there twice, and custom entries are an object. -/
structure IsLayer (layer : Keyed Json) : Prop where
  distinct : (Keyed.keys layer).Nodup
  custom : ∀ value, Keyed.get? layer "custom" = some value →
    ∃ held, value = .obj held ∧ (Keyed.keys held).Nodup

theorem isLayer_nil : IsLayer [] := ⟨List.nodup_nil, by simp⟩

namespace IsLayer

variable {base : Keyed Json}

theorem get?_custom (layer : IsLayer base) :
    Keyed.get? base "custom" = none ∧ customOf base = [] ∨
      Keyed.get? base "custom" = some (.obj (customOf base)) := by
  cases found : Keyed.get? base "custom" with
  | none => exact .inl ⟨rfl, customOf_of_none found⟩
  | some value =>
      obtain ⟨held, rfl, -⟩ := layer.custom value found
      rw [customOf_of_some found]
      exact .inr rfl

theorem nodup_customOf (layer : IsLayer base) : (Keyed.keys (customOf base)).Nodup := by
  rcases layer.get?_custom with ⟨-, nothing⟩ | found
  · rw [nothing]
    exact List.nodup_nil
  · obtain ⟨held, same, distinct⟩ := layer.custom _ found
    cases same
    exact distinct

theorem entriesOrNone_custom (layer : IsLayer base) :
    entriesOrNone ((Keyed.get? base "custom").getD .null) = .ok (customOf base) := by
  rcases layer.get?_custom with ⟨absent, nothing⟩ | found
  · rw [absent, nothing]
    rfl
  · rw [found]
    cases customOf base with
    | nil => rfl
    | cons entry rest => rfl

theorem single {name : String} {value : Json} (object : name = "custom" →
    ∃ held, value = .obj held ∧ (Keyed.keys held).Nodup) : IsLayer [(name, value)] := by
  refine ⟨List.nodup_cons.mpr ⟨List.not_mem_nil, List.nodup_nil⟩, fun found there => ?_⟩
  rw [Keyed.get?_cons] at there
  split at there
  · cases there
    exact object (Eq.symm ‹_›)
  · cases there

variable {name : String} {value : Json}

theorem head (layer : IsLayer ((name, value) :: base)) : IsLayer [(name, value)] := by
  apply single
  rintro rfl
  exact layer.custom value (by rw [Keyed.get?_cons, if_pos rfl])

theorem tail (layer : IsLayer ((name, value) :: base)) : IsLayer base := by
  obtain ⟨absent, distinct⟩ := List.nodup_cons.mp layer.distinct
  refine ⟨distinct, fun found there => layer.custom found ?_⟩
  have other : "custom" ≠ name := by
    rintro rfl
    exact absent (Keyed.exists_get?_iff.mp ⟨found, there⟩)
  rw [Keyed.get?_cons, if_neg other]
  exact there

end IsLayer

theorem isLayer_defaultsFor (artifact : String) : IsLayer (defaultsFor artifact) := by
  have all : ∀ entry ∈ artifactDefaults, IsLayer entry.2 := by
    simp only [artifactDefaults, List.forall_mem_cons]
    refine ⟨?_, ?_, ?_, ?_, by simp⟩
    all_goals
      refine ⟨by decide, fun value found => ?_⟩
      simp [Keyed.get?, List.lookup_cons] at found
    · subst found
      exact ⟨_, rfl, by decide⟩
    · subst found
      exact ⟨_, rfl, by decide⟩
  rw [defaultsFor]
  cases found : Keyed.get? artifactDefaults artifact with
  | none => exact isLayer_nil
  | some layer => exact all _ (Keyed.mem_of_get? found)

structure IsOverlay (base overrides all : Keyed Json) : Prop where
  layer : IsLayer all
  entry : ∀ name, name ≠ "custom" →
    Keyed.get? all name = (Keyed.get? overrides name).or (Keyed.get? base name)
  custom : ∀ name, Keyed.get? (customOf all) name =
    (Keyed.get? (customOf overrides) name).or (Keyed.get? (customOf base) name)

variable {base overrides : Keyed Json} {name : String} {value : Json}

theorem layEntry_of_ne (other : name ≠ "custom") (value : Json) :
    layEntry base (name, value) = .ok (Keyed.put name value base) := by
  rw [layEntry]
  simp [other]

theorem IsLayer.layEntry_custom (layer : IsLayer base) (overrides : Keyed Json) :
    layEntry base ("custom", .obj overrides) =
      .ok (Keyed.put "custom" (.obj (Keyed.merge (customOf base) overrides)) base) := by
  rw [layEntry, layer.entriesOrNone_custom]
  rfl

theorem isOverlay_put (layer : IsLayer base) (other : name ≠ "custom") (value : Json) :
    IsOverlay base [(name, value)] (Keyed.put name value base) := by
  have kept : Keyed.get? (Keyed.put name value base) "custom" = Keyed.get? base "custom" := by
    rw [Keyed.get?_put, if_neg (Ne.symm other)]
  have nothing : customOf [(name, value)] = [] := by
    apply customOf_of_none
    rw [Keyed.get?_cons, if_neg (Ne.symm other), Keyed.get?_nil]
  refine ⟨⟨Keyed.nodup_keys_put layer.distinct _ _, ?_⟩, ?_, ?_⟩
  · rw [kept]
    exact layer.custom
  · intro found _
    rw [Keyed.get?_put, Keyed.get?_cons]
    split <;> rfl
  · intro found
    rw [customOf_congr kept, nothing]
    rfl

theorem isOverlay_custom (layer : IsLayer base) (distinct : (Keyed.keys overrides).Nodup) :
    IsOverlay base [("custom", .obj overrides)]
      (Keyed.put "custom" (.obj (Keyed.merge (customOf base) overrides)) base) := by
  have found : Keyed.get? (Keyed.put "custom" (.obj (Keyed.merge (customOf base) overrides)) base)
      "custom" = some (.obj (Keyed.merge (customOf base) overrides)) := by
    rw [Keyed.get?_put, if_pos rfl]
  refine ⟨⟨Keyed.nodup_keys_put layer.distinct _ _, ?_⟩, ?_, ?_⟩
  · intro value there
    rw [found] at there
    cases there
    exact ⟨_, rfl, Keyed.nodup_keys_merge layer.nodup_customOf _⟩
  · intro name other
    rw [Keyed.get?_put, if_neg other, Keyed.get?_cons, if_neg other]
    rfl
  · intro name
    rw [customOf_of_some found]
    exact Keyed.get?_merge _ distinct name

theorem exists_layEntry (layer : IsLayer base) (single : IsLayer [(name, value)]) :
    ∃ next, layEntry base (name, value) = .ok next ∧ IsOverlay base [(name, value)] next := by
  by_cases custom : name = "custom"
  · subst custom
    obtain ⟨held, rfl, distinct⟩ := single.custom value rfl
    exact ⟨_, layer.layEntry_custom held, isOverlay_custom layer distinct⟩
  · exact ⟨_, layEntry_of_ne custom value, isOverlay_put layer custom value⟩

theorem customOf_cons (value : Json) (absent : name ∉ Keyed.keys overrides) :
    customOf ((name, value) :: overrides) = customOf [(name, value)] ∧ customOf overrides = [] ∨
      customOf ((name, value) :: overrides) = customOf overrides ∧
        customOf [(name, value)] = [] := by
  by_cases custom : "custom" = name
  · subst custom
    refine .inl ⟨customOf_congr ?_, customOf_of_none (Keyed.get?_eq_none_iff.mpr absent)⟩
    rw [Keyed.get?_cons, Keyed.get?_cons, if_pos rfl, if_pos rfl]
  · refine .inr ⟨customOf_congr ?_, customOf_of_none ?_⟩
    · rw [Keyed.get?_cons, if_neg custom]
    · rw [Keyed.get?_cons, if_neg custom, Keyed.get?_nil]

theorem IsOverlay.cons {middle all : Keyed Json} (absent : name ∉ Keyed.keys overrides)
    (first : IsOverlay base [(name, value)] middle) (others : IsOverlay middle overrides all) :
    IsOverlay base ((name, value) :: overrides) all := by
  refine ⟨others.layer, fun found other => ?_, fun found => ?_⟩
  · rw [others.entry found other, first.entry found other, Keyed.get?_cons, Keyed.get?_cons]
    by_cases same : found = name
    · simp [same, Keyed.get?_eq_none_iff.mpr absent]
    · simp [same]
  · rw [others.custom, first.custom]
    rcases customOf_cons value absent with ⟨same, nothing⟩ | ⟨same, nothing⟩
    · simp [same, nothing]
    · simp [same, nothing]

theorem exists_lay (layer : IsLayer base) (above : IsLayer overrides) :
    ∃ all, lay base overrides = .ok all ∧ IsOverlay base overrides all := by
  induction overrides generalizing base with
  | nil => exact ⟨base, rfl, layer, by simp, by simp [customOf]⟩
  | cons entry rest ih =>
      obtain ⟨name, value⟩ := entry
      obtain ⟨middle, first, overlay⟩ := exists_layEntry layer above.head
      obtain ⟨all, others, last⟩ := ih overlay.layer above.tail
      refine ⟨all, ?_, overlay.cons (List.nodup_cons.mp above.distinct).1 last⟩
      rw [lay, List.foldlM_cons, first]
      exact others

/-! ## Settings from entries -/

def value? (settings : Settings) (name : String) : Option Json :=
  Keyed.get? settings.entries name

theorem entries_set (settings : Settings) (known : isKnown name = true) (value : Json) :
    (settings.set name value).entries = Keyed.put name value settings.entries := by
  rw [isKnown, List.contains_iff_mem] at known
  simp only [names, entries, Keyed.keys, List.map_cons, List.map_nil, List.mem_cons,
    List.not_mem_nil, or_false] at known
  rcases known with rfl | rfl | rfl | rfl | rfl | rfl | rfl | rfl | rfl | rfl | rfl
  all_goals simp [set, entries, Keyed.put]

theorem value?_set (settings : Settings) (known : isKnown name = true) (value : Json)
    (other : String) :
    (settings.set name value).value? other =
      if other = name then some value else settings.value? other := by
  rw [value?, entries_set settings known, Keyed.get?_put, value?]

theorem value?_custom (settings : Settings) : settings.value? "custom" = some settings.custom := by
  simp [value?, entries, Keyed.get?_cons]

theorem nodup_keys_entries (settings : Settings) : (Keyed.keys settings.entries).Nodup := by
  have all : (Keyed.keys (entries {})).Nodup := by decide
  exact all

theorem ext_value? {settings other : Settings}
    (same : ∀ name, isKnown name = true → settings.value? name = other.value? name) :
    settings = other := by
  have keys : Keyed.keys settings.entries = Keyed.keys other.entries := rfl
  have each : settings.entries = other.entries := by
    refine Keyed.ext_get? keys settings.nodup_keys_entries fun name => ?_
    by_cases known : isKnown name = true
    · exact same name known
    · have absent : name ∉ Keyed.keys settings.entries := by
        rw [isKnown, List.contains_iff_mem] at known
        exact known
      rw [Keyed.get?_eq_none_iff.mpr absent, Keyed.get?_eq_none_iff.mpr (keys ▸ absent)]
  cases settings
  cases other
  simpa [entries] using each

theorem value?_foldl {given : Keyed Json} (distinct : (Keyed.keys given).Nodup)
    (known : ∀ name ∈ Keyed.keys given, isKnown name = true) (settings : Settings) :
    (given.foldl (fun settings entry => settings.set entry.1 entry.2) settings).value? name =
      (Keyed.get? given name).or (settings.value? name) := by
  induction given generalizing settings with
  | nil => simp
  | cons entry rest ih =>
      obtain ⟨found, value⟩ := entry
      obtain ⟨absent, distinct⟩ := List.nodup_cons.mp distinct
      obtain ⟨first, others⟩ := List.forall_mem_cons.mp known
      rw [List.foldl_cons, ih distinct others, value?_set settings first, Keyed.get?_cons]
      by_cases same : name = found
      · subst same
        have nothing : Keyed.get? rest name = none := Keyed.get?_eq_none_iff.mpr absent
        simp [nothing]
      · simp [same]

def beside? (layer : Keyed Json) (name : String) : Option Json :=
  if isKnown name then none else Keyed.get? layer name

/-- What a layer gives under an artifact's own name: beside the known entries, or else custom. -/
def given? (layer : Keyed Json) (name : String) : Option Json :=
  (beside? layer name).or (Keyed.get? (customOf layer) name)

theorem get?_known (given : Keyed Json) (known : isKnown name = true) :
    Keyed.get? (given.filter fun entry => isKnown entry.1) name = Keyed.get? given name := by
  rw [Keyed.get?_filter, if_pos known]

theorem get?_unknown (given : Keyed Json) (name : String) :
    Keyed.get? (given.filter fun entry => !isKnown entry.1) name = beside? given name := by
  rw [Keyed.get?_filter fun name => !isKnown name, beside?]
  cases isKnown name <;> rfl

def ofKnown (given : Keyed Json) : Settings :=
  (given.filter fun entry => isKnown entry.1).foldl
    (fun settings entry => settings.set entry.1 entry.2) {}

theorem ofEntries_eq (given : Keyed Json) :
    ofEntries given =
      match given.filter fun entry => !isKnown entry.1 with
      | [] => .ok (ofKnown given)
      | first :: rest => (entriesOrNone ((Keyed.get? given "custom").getD .null)).map fun held =>
          (ofKnown given).set "custom" (.obj (Keyed.merge held (first :: rest))) := by
  cases others : given.filter fun entry => !isKnown entry.1 with
  | nil =>
      simp only [ofEntries, others]
      rfl
  | cons first rest =>
      have custom : isKnown "custom" = true := by decide
      simp only [ofEntries, others, get?_known given custom]
      cases entriesOrNone ((Keyed.get? given "custom").getD .null) <;> rfl

theorem value?_ofKnown {given : Keyed Json} (distinct : (Keyed.keys given).Nodup)
    (known : isKnown name = true) :
    (ofKnown given).value? name = (Keyed.get? given name).or (value? {} name) := by
  rw [ofKnown, value?_foldl, get?_known given known]
  · exact distinct.sublist (List.filter_sublist.map _)
  · simp [Keyed.keys]

theorem custom_ofKnown {given : Keyed Json} (distinct : (Keyed.keys given).Nodup) :
    (ofKnown given).custom = (Keyed.get? given "custom").getD (.obj []) := by
  have found : (ofKnown given).value? "custom" = _ := value?_ofKnown distinct (by decide)
  rw [value?_custom, value?_custom, Option.or_some] at found
  exact Option.some.inj found

theorem IsLayer.custom_ofKnown {given : Keyed Json} (layer : IsLayer given) :
    (ofKnown given).custom = .obj (customOf given) := by
  rw [Settings.custom_ofKnown layer.distinct]
  rcases layer.get?_custom with ⟨absent, nothing⟩ | there
  · rw [absent, nothing]
    rfl
  · rw [there, Option.getD_some]

theorem exists_ofEntries {given : Keyed Json} (layer : IsLayer given) :
    ∃ settings held, ofEntries given = .ok settings ∧
      (∀ name, isKnown name = true → name ≠ "custom" →
        settings.value? name = (Keyed.get? given name).or (value? {} name)) ∧
      settings.custom = .obj held ∧ ∀ name, Keyed.get? held name = given? given name := by
  have unknown := get?_unknown given
  rw [ofEntries_eq]
  cases others : given.filter fun entry => !isKnown entry.1 with
  | nil =>
      refine ⟨ofKnown given, customOf given, rfl, ?_, layer.custom_ofKnown, fun name => ?_⟩
      · exact fun name known _ => value?_ofKnown layer.distinct known
      · rw [given?, ← unknown, others]
        rfl
  | cons first rest =>
      rw [layer.entriesOrNone_custom]
      refine ⟨_, _, rfl, fun name known other => ?_, rfl, fun name => ?_⟩
      · rw [value?_set _ (by decide), if_neg other, value?_ofKnown layer.distinct known]
      · have distinct : (Keyed.keys (first :: rest)).Nodup := by
          rw [← others]
          exact layer.distinct.sublist (List.filter_sublist.map _)
        rw [Keyed.get?_merge _ distinct, given?, ← unknown, others]

theorem loadFile_eq_ok_iff {tree : Tree} {file : String} {layer : Keyed Json} :
    loadFile tree file = .ok layer ↔
      tree.holds (Path.ofText file) = .ok true ∧ (Path.ofText file).isNamedJson = true ∧
        ∃ text, tree.read (Path.ofText file) = .ok text ∧ Json.read text = .ok (.obj layer) := by
  constructor
  · intro loaded
    rw [loadFile] at loaded
    obtain ⟨there, found, loaded⟩ := bind_eq_ok_iff.mp loaded
    rw [mapError_eq_ok_iff] at found
    simp only at loaded
    split at loaded
    · cases loaded
    · rename_i present
      split at loaded
      · cases loaded
      · rename_i named
        split at loaded
        · cases loaded
        · rename_i text read
          split at loaded
          · cases loaded
          · rename_i entries value
            cases loaded
            have present : there = true := by simpa using present
            exact ⟨present ▸ found, by simpa using named, text, read, value⟩
          · cases loaded
  · rintro ⟨there, named, text, found, read⟩
    rw [loadFile, bind_eq_ok_iff]
    refine ⟨true, mapError_eq_ok_iff.mpr there, ?_⟩
    simp [named, found, read]
    rfl

end SchemaArtifacts.Settings
