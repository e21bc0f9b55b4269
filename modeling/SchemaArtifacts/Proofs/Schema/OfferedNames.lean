import SchemaArtifacts.Proofs.Text.Numerals
import SchemaArtifacts.Proofs.Text.Trimming
import SchemaArtifacts.Schema.Document

/-!
# Names that are offered to documents

A document without a name takes the name that is offered.  Whether it has one is asked before its
name is trimmed, so that a name of nothing but blanks counts as one there and as none afterwards:
then the schema has neither the offered name nor the given one.
-/

namespace SchemaArtifacts

open Coercion Text

theorem trim_ne_empty_of_mem {s : String} {c : Char} (mem : c ∈ s.toList)
    (visible : isBlank c = false) : trim s ≠ "" := by
  intro nothing
  have blank := List.all_eq_true.mp (isBlankText_iff.mpr nothing) c mem
  rw [visible] at blank
  cases blank

theorem trim_ofList_cons_ne_empty {c : Char} (visible : isBlank c = false) (rest : List Char) :
    trim (String.ofList (c :: rest)) ≠ "" :=
  trim_ne_empty_of_mem (by simp) visible

namespace Binary64

theorem point_mem_positionalChars (digits : List Char) (point : Int) :
    '.' ∈ positionalChars digits point := by
  rw [positionalChars]
  split <;> simp

theorem exists_visible_magnitudeChars (units : Nat) :
    ∃ c ∈ magnitudeChars units, isBlank c = false := by
  rw [magnitudeChars]
  split
  · exact ⟨'0', by simp, by decide⟩
  · dsimp only
    split
    · exact ⟨'.', point_mem_positionalChars _ _, by decide⟩
    · obtain ⟨c, rest, digits, digit⟩ := numeralChars_eq_cons (shortestDecimal units).digits
      refine ⟨c, ?_, isBlank_of_isAsciiDigit digit⟩
      rw [digits]
      cases rest <;> simp [scientificChars]

theorem trim_shortestText_ne_empty (value : Binary64) : trim value.shortestText ≠ "" := by
  cases value with
  | nan => decide
  | infinite negative => cases negative <;> decide
  | finite negative units =>
      obtain ⟨c, mem, visible⟩ := exists_visible_magnitudeChars units
      apply trim_ne_empty_of_mem _ visible
      rw [shortestText, String.toList_ofList]
      exact List.mem_append_right _ mem

end Binary64

namespace Coercion

theorem trimmedText_eq_empty_iff {value : Json} :
    trimmedText value = "" ↔ value = .null ∨ ∃ s, value = .str s ∧ trim s = "" := by
  cases value with
  | null => simp [trimmedText, Coercion.text]
  | str s => simp [trimmedText, Coercion.text]
  | bool value => cases value <;> simp [trimmedText, Coercion.text] <;> decide
  | float value => simpa [trimmedText, Coercion.text] using value.trim_shortestText_ne_empty
  | int value =>
      have visible : trim (signedNumeral value) ≠ "" := by
        cases value with
        | ofNat n =>
            obtain ⟨c, rest, digits, digit⟩ := numeralChars_eq_cons n
            rw [signedNumeral, numeral, digits]
            exact trim_ofList_cons_ne_empty (isBlank_of_isAsciiDigit digit) rest
        | negSucc n => exact trim_ne_empty_of_mem (c := '-') (by simp [signedNumeral]) (by decide)
      simpa [trimmedText, Coercion.text] using visible
  | arr items =>
      have visible : trim ((Json.arr items).write .line) ≠ "" := by
        cases items <;> exact trim_ofList_cons_ne_empty (c := '[') (by decide) _
      simpa [trimmedText, Coercion.text] using visible
  | obj entries =>
      have visible : trim ((Json.obj entries).write .line) ≠ "" := by
        cases entries <;> exact trim_ofList_cons_ne_empty (c := '{') (by decide) _
      simpa [trimmedText, Coercion.text] using visible

end Coercion

namespace Schema

variable {entries : Keyed Json} {offered : String}

def IsSingleTable (entries : Keyed Json) : Prop :=
  "fields" ∈ Keyed.keys entries ∧ "tables" ∉ Keyed.keys entries

/-- The object gives no name, or one without a visible character. -/
def IsUnnamed (entries : Keyed Json) : Prop :=
  ∀ value, Keyed.get? entries "name" = some value → trimmedText value = ""

/-- The name of the object is a text of blanks, at least one of them. -/
def HasBlankName (entries : Keyed Json) : Prop :=
  ∃ s, Keyed.get? entries "name" = some (.str s) ∧ s ≠ "" ∧ trim s = ""

theorem trimmedText_member_name (unnamed : IsUnnamed entries) :
    trimmedText ((Json.obj entries).member "name") = "" := by
  rw [Json.member]
  cases found : Keyed.get? entries "name" with
  | none => rfl
  | some value => exact unnamed value found

theorem isSet_member_name_iff (unnamed : IsUnnamed entries) :
    ((Json.obj entries).member "name").isSet = true ↔ HasBlankName entries := by
  rw [Json.member, HasBlankName]
  cases found : Keyed.get? entries "name" with
  | none => simp [Json.isSet]
  | some value =>
      rcases trimmedText_eq_empty_iff.mp (unnamed value found) with rfl | ⟨s, rfl, blank⟩
      · simp [Json.isSet]
      · simp [Json.isSet, blank]

theorem ofJson_name (value : Json) :
    (ofJson value).name = orDefault (trimmedText ((asObject value).member "name")) "schema" := by
  rw [ofJson]

theorem ofDocument_arr_name (items : List Json) (offered : String) :
    (ofDocument (.arr items) offered).name = orDefault (trim offered) "schema" := by
  rw [ofDocument, Document.ofJson, Document.schema, ofJson_name, asObject, Json.member, Keyed.get?,
    List.lookup_cons_self, Option.getD_some, trimmedText, Coercion.text]

theorem ofDocument_obj_name (schema : ¬IsSingleTable entries) (offered : String) :
    (ofDocument (.obj entries) offered).name =
      if ((Json.obj entries).member "name").isSet then
        orDefault (trimmedText ((Json.obj entries).member "name")) "schema"
      else orDefault (trim offered) "schema" := by
  have several : (Keyed.has entries "fields" && !Keyed.has entries "tables") = false := by
    rw [IsSingleTable, ← Keyed.has_eq_true_iff, ← Keyed.has_eq_true_iff] at schema
    simpa using schema
  have put : (Json.obj (Keyed.put "name" (.str offered) entries)).member "name" =
      .str offered := by
    rw [Json.member, Keyed.get?_put, if_pos rfl]
    rfl
  rw [ofDocument, Document.ofJson, several]
  split
  · contradiction
  · split
    · rw [Document.schema, ofJson_name, asObject]
    · rw [Document.schema, ofJson_name, asObject, put, trimmedText, Coercion.text]

/--
A list has the name that is offered, and so has an object that gives no name or an empty one.  An
object whose name is a text of blanks has neither: it has the name of schemas without any.
-/
theorem ofDocument_name_eq_iff (trimmed : trim offered = offered) (visible : offered ≠ "") :
    (∀ items, (ofDocument (.arr items) offered).name = offered) ∧
      ∀ entries, ¬IsSingleTable entries → IsUnnamed entries →
        ((ofDocument (.obj entries) offered).name = offered ↔
          ¬HasBlankName entries ∨ offered = "schema") ∧
        (HasBlankName entries → (ofDocument (.obj entries) offered).name = "schema") := by
  have taken : orDefault (trim offered) "schema" = offered := by
    rw [trimmed, orDefault, if_neg visible]
  refine ⟨fun items => (ofDocument_arr_name items offered).trans taken, ?_⟩
  intro entries schema unnamed
  have name : (ofDocument (.obj entries) offered).name =
      if ((Json.obj entries).member "name").isSet then "schema" else offered := by
    rw [ofDocument_obj_name schema, trimmedText_member_name unnamed, taken]
    rfl
  rw [name, ← isSet_member_name_iff unnamed]
  by_cases set : ((Json.obj entries).member "name").isSet = true
  · simp [set, eq_comm]
  · simp [set]

def packEntries : Keyed Json :=
  [("name", .null), ("fields", .arr []), ("tables", .arr [.obj [("name", .str "tags")]])]

theorem ofDocument_name_eq_pack :
    trim "pack" = "pack" ∧ ¬IsSingleTable packEntries ∧ IsUnnamed packEntries ∧
      (ofDocument (.arr [.null]) "pack").name = "pack" ∧
      (ofDocument (.obj packEntries) "pack").name = "pack" := by
  have trimmed : trim "pack" = "pack" := by decide
  have schema : ¬IsSingleTable packEntries := fun single => single.2 (by decide)
  have unnamed : IsUnnamed packEntries := by
    rintro value ⟨⟩
    rfl
  have filled : ¬HasBlankName packEntries := by
    rintro ⟨s, ⟨⟩, -⟩
  obtain ⟨lists, objects⟩ := ofDocument_name_eq_iff trimmed (by decide)
  exact ⟨trimmed, schema, unnamed, lists _,
    (objects packEntries schema unnamed).1.mpr (.inl filled)⟩

/-- An object whose name is two blanks. -/
theorem ofDocument_name_ne_pack :
    trim "pack" = "pack" ∧ ¬IsSingleTable [("name", .str "  ")] ∧
      IsUnnamed [("name", .str "  ")] ∧
      (ofDocument (.obj [("name", .str "  ")]) "pack").name = "schema" := by
  refine ⟨by decide, fun single => absurd single.1 (by decide), ?_, rfl⟩
  rintro value ⟨⟩
  rfl

end Schema

end SchemaArtifacts
