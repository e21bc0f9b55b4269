import SchemaArtifacts.Proofs.Artifact.Bundle

/-!
# Several results of one kind

A bundle takes any number of results of a kind.  Its columns are written apart from each other: a
text stays when a later attempt fails, and an error stays when a later attempt succeeds.  So a
bundle shows the latest result of a kind just if all attempts at the kind end alike.
-/

namespace SchemaArtifacts

namespace Keyed

variable {α : Type}

theorem put_ne_nil (key : String) (value : α) (entries : Keyed α) : put key value entries ≠ [] := by
  cases entries with
  | nil => simp [put]
  | cons entry rest =>
      rw [put]
      split <;> simp

theorem ofPairs_eq_nil_iff {pairs : List (String × α)} : ofPairs pairs = [] ↔ pairs = [] := by
  constructor
  · intro nothing
    rcases pairs.eq_nil_or_concat with none | ⟨before, ⟨key, value⟩, rfl⟩
    · exact none
    · rw [List.concat_eq_append, ofPairs_concat] at nothing
      exact absurd nothing (put_ne_nil key value _)
  · rintro rfl
    rfl

end Keyed

namespace Artifact

theorem getLast?_filterMap_of_isSome {α β : Type} {value? : α → Option β} {items : List α}
    (given : ∀ item ∈ items.getLast?, (value? item).isSome) :
    (items.filterMap value?).getLast? = items.getLast?.bind value? := by
  rcases items.eq_nil_or_concat with rfl | ⟨before, item, rfl⟩
  · rfl
  · obtain ⟨value, found⟩ := Option.isSome_iff_exists.mp (given item (by simp))
    simp [found]

theorem Result.error?_eq_none_iff {result : Result} :
    result.error? = none ↔ ∃ content, result.content? = some content := by
  cases result <;> simp [error?, content?]

namespace Bundle

def resultsOf (kind : Kind) (results : List (Kind × Result)) : List Result :=
  (results.filter (·.1 = kind)).map Prod.snd

def latest? (kind : Kind) (results : List (Kind × Result)) : Option Result :=
  (resultsOf kind results).getLast?

def EndsAlike (kind : Kind) (results : List (Kind × Result)) : Prop :=
  (∀ result ∈ resultsOf kind results, result.error? = none) ∨
    ∀ result ∈ resultsOf kind results, result.content? = none

variable {kind : Kind} {results : List (Kind × Result)} {α : Type}

theorem mem_resultsOf {result : Result} :
    result ∈ resultsOf kind results ↔ (kind, result) ∈ results := by
  simp [resultsOf]

theorem resultsOf_concat_self (kind : Kind) (results : List (Kind × Result)) (result : Result) :
    resultsOf kind (results ++ [(kind, result)]) = resultsOf kind results ++ [result] := by
  simp [resultsOf]

theorem resultsOf_concat_of_ne {other : Kind} (apart : other ≠ kind)
    (results : List (Kind × Result)) (result : Result) :
    resultsOf kind (results ++ [(other, result)]) = resultsOf kind results := by
  simp [resultsOf, apart]

theorem mem_of_latest? {result : Result} (last : latest? kind results = some result) :
    result ∈ resultsOf kind results :=
  List.mem_of_getLast? last

theorem resultsOf_of_latest?_eq_none (none : latest? kind results = none) :
    resultsOf kind results = [] :=
  List.getLast?_eq_none_iff.mp none

theorem get?_ofPairs_column (value? : Result → Option α) (kind : Kind)
    (results : List (Kind × Result)) :
    Keyed.get? (Keyed.ofPairs (column value? results)) kind.tag =
      ((resultsOf kind results).filterMap value?).getLast? := by
  induction results using List.reverseRecOn with
  | nil => rfl
  | append_singleton results entry ih =>
      obtain ⟨other, result⟩ := entry
      rw [ofPairs_column_concat]
      by_cases same : other = kind
      · subst same
        rw [resultsOf_concat_self, List.filterMap_append]
        cases found : value? result with
        | none => simp [Keyed.putAny, found, ih]
        | some value => simp [Keyed.putAny, found, Keyed.get?_put]
      · have apart : kind.tag ≠ other.tag := fun tags => same (Kind.tag_injective tags).symm
        rw [resultsOf_concat_of_ne same, ← ih]
        cases value? result with
        | none => rfl
        | some value => rw [Keyed.putAny, Keyed.get?_put, if_neg apart]

theorem not_mem_keys_ofPairs_column {value? : Result → Option α} :
    kind.tag ∉ Keyed.keys (Keyed.ofPairs (column value? results)) ↔
      ∀ result ∈ resultsOf kind results, value? result = none := by
  rw [← Keyed.get?_eq_none_iff, get?_ofPairs_column, List.getLast?_eq_none_iff,
    List.filterMap_eq_nil_iff]

theorem not_mem_artifacts_iff :
    kind.tag ∉ Keyed.keys (ofResults results).artifacts ↔
      ∀ result ∈ resultsOf kind results, result.content? = none := by
  rw [ofResults_eq]
  exact not_mem_keys_ofPairs_column

theorem not_mem_errors_iff :
    kind.tag ∉ Keyed.keys (ofResults results).errors ↔
      ∀ result ∈ resultsOf kind results, result.error? = none := by
  rw [ofResults_eq]
  exact not_mem_keys_ofPairs_column

/-- What a bundle has of a kind after some results of it: in each column what the latest result
gives that has anything for the column. -/
structure Keeps (bundle : Bundle) (kind : Kind) (results : List Result) : Prop where
  artifact : Keyed.get? bundle.artifacts kind.tag = (results.filterMap Result.content?).getLast?
  filename : Keyed.get? bundle.filenames kind.tag = (results.filterMap Result.filename?).getLast?
  mimeType : Keyed.get? bundle.mimeTypes kind.tag = (results.filterMap Result.mimeType?).getLast?
  warnings : Keyed.get? bundle.warnings kind.tag = results.getLast?.map Result.warnings
  error : Keyed.get? bundle.errors kind.tag = (results.filterMap Result.error?).getLast?

theorem ofResults_keeps (kind : Kind) (results : List (Kind × Result)) :
    (ofResults results).Keeps kind (resultsOf kind results) := by
  rw [ofResults_eq]
  constructor
  case warnings => rw [get?_ofPairs_column, List.filterMap_eq_map', List.getLast?_map]
  all_goals exact get?_ofPairs_column _ kind results

theorem success_ofResults_iff :
    (ofResults results).success = true ↔ ∀ entry ∈ results, entry.2.error? = none := by
  rw [ofResults_eq, success, List.isEmpty_iff, Keyed.ofPairs_eq_nil_iff, column,
    List.filterMap_eq_nil_iff]
  simp only [Option.map_eq_none_iff]

/-- The bundle has the text of a result and no error, or an error and no text. -/
structure Shows (bundle : Bundle) (kind : Kind) (latest? : Option Result) : Prop where
  made : ∀ content,
    Keyed.get? bundle.artifacts kind.tag = some content ∧ kind.tag ∉ Keyed.keys bundle.errors ↔
      ∃ result ∈ latest?, result.content? = some content
  failed :
    kind.tag ∈ Keyed.keys bundle.errors ∧ kind.tag ∉ Keyed.keys bundle.artifacts ↔
      ∃ result ∈ latest?, result.content? = none

/-- The bundle shows the latest result of each kind, and is a success if these all are. -/
structure ShowsLatest (bundle : Bundle) (results : List (Kind × Result)) : Prop where
  shows : ∀ kind, bundle.Shows kind (latest? kind results)
  success : bundle.success = true ↔
    ∀ kind, ∀ result ∈ latest? kind results, ∃ content, result.content? = some content

theorem shows_of_made (all : ∀ result ∈ resultsOf kind results, result.error? = none) :
    (ofResults results).Shows kind (latest? kind results) := by
  have fine : kind.tag ∉ Keyed.keys (ofResults results).errors := not_mem_errors_iff.mpr all
  have given : ∀ result ∈ latest? kind results, ∃ content, result.content? = some content :=
    fun result last => Result.error?_eq_none_iff.mp (all result (mem_of_latest? last))
  constructor
  case made =>
    intro content
    have isSome : ∀ result ∈ latest? kind results, result.content?.isSome := fun result last =>
      Option.isSome_iff_exists.mpr (given result last)
    rw [(ofResults_keeps kind results).artifact, getLast?_filterMap_of_isSome isSome,
      Option.bind_eq_some_iff, and_iff_left fine]
    rfl
  case failed =>
    constructor
    · rintro ⟨wrong, -⟩
      exact absurd wrong fine
    · rintro ⟨result, last, missing⟩
      obtain ⟨content, found⟩ := given result last
      rw [missing] at found
      cases found

theorem shows_of_failed (all : ∀ result ∈ resultsOf kind results, result.content? = none) :
    (ofResults results).Shows kind (latest? kind results) := by
  have missing : kind.tag ∉ Keyed.keys (ofResults results).artifacts :=
    not_mem_artifacts_iff.mpr all
  constructor
  case made =>
    intro content
    constructor
    · rintro ⟨found, -⟩
      exact absurd (Keyed.exists_get?_iff.mp ⟨content, found⟩) missing
    · rintro ⟨result, last, found⟩
      rw [all result (mem_of_latest? last)] at found
      cases found
  case failed =>
    rw [and_iff_left missing]
    constructor
    · intro wrong
      cases last : latest? kind results with
      | none =>
          refine absurd wrong (not_mem_errors_iff.mpr ?_)
          simp [resultsOf_of_latest?_eq_none last]
      | some result => exact ⟨result, rfl, all result (mem_of_latest? last)⟩
    · rintro ⟨result, last, failed⟩
      by_contra fine
      have made := not_mem_errors_iff.mp fine result (mem_of_latest? last)
      obtain ⟨content, found⟩ := Result.error?_eq_none_iff.mp made
      rw [failed] at found
      cases found

theorem shows_latest?_iff :
    (ofResults results).Shows kind (latest? kind results) ↔ EndsAlike kind results := by
  constructor
  · intro shows
    cases last : latest? kind results with
    | none => exact .inl (by simp [resultsOf_of_latest?_eq_none last])
    | some result =>
        rw [last] at shows
        cases found : result.content? with
        | some content =>
            obtain ⟨-, fine⟩ := (shows.made content).mpr ⟨result, rfl, found⟩
            exact .inl (not_mem_errors_iff.mp fine)
        | none =>
            obtain ⟨-, missing⟩ := shows.failed.mpr ⟨result, rfl, found⟩
            exact .inr (not_mem_artifacts_iff.mp missing)
  · rintro (made | failed)
    · exact shows_of_made made
    · exact shows_of_failed failed

theorem success_of_endsAlike (alike : ∀ kind, EndsAlike kind results) :
    (ofResults results).success = true ↔
      ∀ kind, ∀ result ∈ latest? kind results, ∃ content, result.content? = some content := by
  rw [success_ofResults_iff]
  constructor
  · intro all kind result last
    exact Result.error?_eq_none_iff.mp (all _ (mem_resultsOf.mp (mem_of_latest? last)))
  · rintro made ⟨kind, result⟩ mem
    have added : result ∈ resultsOf kind results := mem_resultsOf.mpr mem
    rcases alike kind with all | none
    · exact all result added
    · cases last : latest? kind results with
      | none => simp [resultsOf_of_latest?_eq_none last] at added
      | some latest =>
          obtain ⟨content, found⟩ := made kind latest last
          rw [none latest (mem_of_latest? last)] at found
          cases found

/--
After any results, a bundle has in each column the latest entry of each kind, and it is a success
if no result failed.  It shows the latest result of a kind just if all results of the kind end
alike, and it shows the latest result of every kind just if this holds for all of them.
-/
theorem ofResults_showsLatest_iff (results : List (Kind × Result)) :
    (∀ kind, (ofResults results).Keeps kind (resultsOf kind results)) ∧
      ((ofResults results).success = true ↔ ∀ entry ∈ results, entry.2.error? = none) ∧
      (∀ kind, (ofResults results).Shows kind (latest? kind results) ↔ EndsAlike kind results) ∧
      ((ofResults results).ShowsLatest results ↔ ∀ kind, EndsAlike kind results) := by
  refine ⟨fun kind => ofResults_keeps kind results, success_ofResults_iff,
    fun kind => shows_latest?_iff, ?_⟩
  constructor
  · intro latest kind
    exact shows_latest?_iff.mp (latest.shows kind)
  · intro alike
    exact ⟨fun kind => shows_latest?_iff.mpr (alike kind), success_of_endsAlike alike⟩

def retriedPage : List (Kind × Result) :=
  [(.page, .failed "no template" []), (.page, .made "<html>" [] { filename := "users.astro" })]

theorem retriedPage_not_showsLatest :
    (ofResults retriedPage).success = false ∧
      Keyed.get? (ofResults retriedPage).errors "page" = some "no template" ∧
      (latest? .page retriedPage).bind Result.content? = some "<html>" ∧
      ¬(ofResults retriedPage).ShowsLatest retriedPage := by
  refine ⟨by decide, by decide, by decide, ?_⟩
  intro latest
  obtain ⟨-, fine⟩ := ((latest.shows .page).made "<html>").mpr ⟨_, rfl, rfl⟩
  exact fine (by decide)

end Bundle

end Artifact

end SchemaArtifacts
