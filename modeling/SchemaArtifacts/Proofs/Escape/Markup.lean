import Mathlib.Data.List.Basic
import SchemaArtifacts.Escape.Markup
import SchemaArtifacts.Proofs.Text.Reading

/-!
# Page text read back

Page text has none of the characters that markup and templates reserve, except for the ampersands
that start its entities.  Reading each entity as the character that it stands for gives the text
back, also where the text looks like an entity itself: its own ampersands are replaced before those
of the other entities are written.
-/

namespace SchemaArtifacts.Escape

open Text

/-- The entities of page text and the characters that they stand for, in the order in which these
are replaced. -/
def entities : List (String × Char) :=
  [("&amp;", '&'), ("&lt;", '<'), ("&gt;", '>'), ("&quot;", '"'), ("&#x27;", '\''),
   ("&#123;", '{'), ("&#125;", '}')]

/-- The characters that open and close tags, values of attributes and expressions of templates. -/
def reservedChars : List Char := ['<', '>', '"', '\'', '{', '}']

def readEntity : Reader Char Char := fun cs =>
  entities.findSome? fun (entity, c) => (afterPattern? entity.toList cs).map (c, ·)

def readShown : Reader Char Char
  | [] => none
  | c :: cs => if c = '&' then readEntity (c :: cs) else some (c, cs)

def OpensEntities (cs : List Char) : Prop :=
  ∀ after, '&' :: after <:+ cs → ∃ entry ∈ entities, entry.1.toList <+: '&' :: after

theorem pageChar_cases (c : Char) :
    (∃ entity, (entity, c) ∈ entities ∧ pageChar c = entity.toList) ∨
      pageChar c = [c] ∧ c ∉ entities.map Prod.snd := by
  by_cases reserved : c ∈ entities.map Prod.snd
  · obtain ⟨entry, mem, rfl⟩ := List.mem_map.mp reserved
    have written : ∀ entry ∈ entities, pageChar entry.2 = entry.1.toList := by decide
    exact .inl ⟨entry.1, mem, written entry mem⟩
  · refine .inr ⟨?_, reserved⟩
    simp only [entities, List.map_cons, List.map_nil, List.mem_cons, List.not_mem_nil, or_false,
      not_or] at reserved
    simp [pageChar, attributeChar, entity?, reserved]

theorem readEntity_append {entity : String} {c : Char} (mem : (entity, c) ∈ entities)
    (rest : List Char) : readEntity (entity.toList ++ rest) = some (c, rest) := by
  simp only [entities, List.mem_cons, List.not_mem_nil, or_false, Prod.mk.injEq] at mem
  rcases mem with ⟨rfl, rfl⟩ | ⟨rfl, rfl⟩ | ⟨rfl, rfl⟩ | ⟨rfl, rfl⟩ | ⟨rfl, rfl⟩ | ⟨rfl, rfl⟩ |
    ⟨rfl, rfl⟩ <;> rfl

theorem exists_entity_eq {entity : String} {c : Char} (mem : (entity, c) ∈ entities) :
    ∃ others, entity.toList = '&' :: others ∧ '&' ∉ others := by
  have ampersands : ∀ entry ∈ entities,
      entry.1.toList = '&' :: entry.1.toList.tail ∧ '&' ∉ entry.1.toList.tail := by
    decide
  exact ⟨_, ampersands _ mem⟩

theorem pageChar_ne_nil (c : Char) : pageChar c ≠ [] := by
  rcases pageChar_cases c with ⟨entity, mem, written⟩ | ⟨written, -⟩
  · obtain ⟨others, starts, -⟩ := exists_entity_eq mem
    rw [written, starts]
    exact List.cons_ne_nil _ _
  · rw [written]
    exact List.cons_ne_nil _ _

theorem readShown_pageChar (c : Char) (rest : List Char) :
    readShown (pageChar c ++ rest) = some (c, rest) := by
  rcases pageChar_cases c with ⟨entity, mem, written⟩ | ⟨written, plain⟩
  · obtain ⟨others, starts, -⟩ := exists_entity_eq mem
    rw [written, ← readEntity_append mem rest, starts, List.cons_append, readShown, if_pos rfl]
  · rw [written, List.singleton_append, readShown, if_neg]
    rintro rfl
    exact plain (by decide)

theorem disjoint_pageChar (c : Char) : List.Disjoint (pageChar c) reservedChars := by
  intro d inside reserved
  rcases pageChar_cases c with ⟨entity, mem, written⟩ | ⟨written, plain⟩
  · have free : ∀ entry ∈ entities, entry.1.toList.all (· ∉ reservedChars) = true := by decide
    have outside := List.all_eq_true.mp (free _ mem) d (written ▸ inside)
    exact of_decide_eq_true outside reserved
  · rw [written, List.mem_singleton] at inside
    have replaced : reservedChars ⊆ entities.map Prod.snd := by decide
    exact plain (inside ▸ replaced reserved)

theorem OpensEntities.append_of_not_mem {cs : List Char} (opens : OpensEntities cs)
    {plain : List Char} (absent : '&' ∉ plain) : OpensEntities (plain ++ cs) := by
  induction plain with
  | nil => exact opens
  | cons c plain ih =>
      obtain ⟨first, later⟩ := not_or.mp (List.mem_cons.not.mp absent)
      intro after ends
      rcases List.suffix_cons_iff.mp ends with same | ends
      · exact absurd (List.cons.inj same).1 first
      · exact ih later after ends

theorem OpensEntities.pageChar_append {cs : List Char} (opens : OpensEntities cs) (c : Char) :
    OpensEntities (pageChar c ++ cs) := by
  rcases pageChar_cases c with ⟨entity, mem, written⟩ | ⟨written, plain⟩
  · obtain ⟨others, starts, absent⟩ := exists_entity_eq mem
    rw [written, starts]
    intro after ends
    rcases List.suffix_cons_iff.mp ends with same | ends
    · exact ⟨_, mem, starts ▸ ⟨cs, same.symm⟩⟩
    · exact opens.append_of_not_mem absent after ends
  · rw [written]
    refine opens.append_of_not_mem fun mem => plain ?_
    obtain rfl : '&' = c := List.mem_singleton.mp mem
    decide

theorem foldl_flatMap {α β : Type} (write : β → α → List α) (table : List β) (cs : List α) :
    table.foldl (fun cs entry => cs.flatMap (write entry)) cs =
      cs.flatMap fun c => table.foldl (fun cs entry => cs.flatMap (write entry)) [c] := by
  induction table generalizing cs with
  | nil => exact (List.flatMap_singleton' cs).symm
  | cons entry table ih =>
      simp only [List.foldl_cons, List.flatMap_singleton]
      rw [ih, List.flatMap_assoc]
      exact List.flatMap_congr fun c _ => (ih (write entry c)).symm

theorem foldl_replace (c : Char) :
    entities.foldl (fun cs entry => cs.flatMap fun d =>
      if d = entry.2 then entry.1.toList else [d]) [c] = pageChar c := by
  rcases pageChar_cases c with ⟨entity, mem, written⟩ | ⟨written, plain⟩
  · have turns : ∀ entry ∈ entities, entities.foldl (fun cs entry => cs.flatMap fun d =>
        if d = entry.2 then entry.1.toList else [d]) [entry.2] = entry.1.toList := by
      decide
    rw [written, turns _ mem]
  · rw [written]
    generalize entities = table at plain ⊢
    induction table with
    | nil => rfl
    | cons entry table ih =>
        obtain ⟨other, later⟩ := not_or.mp (List.mem_cons.not.mp plain)
        rw [List.foldl_cons, List.flatMap_singleton, if_neg other, ih later]

theorem pageText_eq_foldl (s : String) :
    pageText s =
      entities.foldl (fun text entry => replace (String.singleton entry.2) entry.1 text) s := by
  have chars (table : List (String × Char)) (text : String) :
      (table.foldl (fun text entry => replace (String.singleton entry.2) entry.1 text)
        text).toList = table.foldl (fun cs entry => cs.flatMap fun d =>
          if d = entry.2 then entry.1.toList else [d]) text.toList := by
    induction table generalizing text with
    | nil => rfl
    | cons entry table ih => rw [List.foldl_cons, ih, toList_replace_singleton, List.foldl_cons]
  rw [← String.toList_inj, chars, foldl_flatMap, pageText, String.toList_ofList]
  exact List.flatMap_congr fun c _ => (foldl_replace c).symm

/--
Page text has no reserved character, every ampersand in it starts one of the entities, and reading
these as the characters that they stand for gives the text back, although the entities are written
by replacements one after another.
-/
theorem pageText_reads_back (s : String) :
    List.Disjoint (pageText s).toList reservedChars ∧ OpensEntities (pageText s).toList ∧
      readAll readShown (pageText s).toList = some s.toList ∧
      pageText s =
        entities.foldl (fun text entry => replace (String.singleton entry.2) entry.1 text) s := by
  have chars : (pageText s).toList = s.toList.flatMap pageChar := String.toList_ofList
  rw [chars]
  refine ⟨fun c inside => ?_, ?_, ?_, pageText_eq_foldl s⟩
  · obtain ⟨d, -, shown⟩ := List.mem_flatMap.mp inside
    exact disjoint_pageChar d shown
  · induction s.toList with
    | nil => exact fun after ends => absurd (List.suffix_nil.mp ends) (List.cons_ne_nil _ _)
    | cons c cs ih =>
        rw [List.flatMap_cons]
        exact ih.pageChar_append c
  · have read := @readAll_flatMap _ _ _ readShown pageChar id s.toList
      (fun c _ rest => readShown_pageChar c rest) fun c _ => pageChar_ne_nil c
    rwa [List.map_id] at read

example : pageText "&lt;{x}" = "&amp;lt;&#123;x&#125;" := by
  decide +kernel

end SchemaArtifacts.Escape
