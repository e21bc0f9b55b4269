import Mathlib.Data.List.Nodup
import SchemaArtifacts.Proofs.Naming.Register

/-!
# Answers of a register

What a register answers to any requests one after another.  An answer is kept under the key of its
request, so the same request is answered alike, and what is handed out is never free again, so
requests that differ are answered with identifiers that differ.
-/

namespace SchemaArtifacts.Naming.Register

variable {register : Register}

/-- A search that tries the candidates of an identifier from the `n`th on and ends at the first that
is not among those used. -/
inductive Finds (used : List String) (identifier : String) : Nat → String → Prop
  | free {n : Nat} : candidate identifier n ∉ used → Finds used identifier n (candidate identifier n)
  | taken {n : Nat} {found : String} : candidate identifier n ∈ used →
      Finds used identifier (n + 1) found → Finds used identifier n found

theorem Finds.eq_of_not_mem {used : List String} {identifier found : String} {n : Nat}
    (search : Finds used identifier n found) (free : candidate identifier n ∉ used) :
    found = candidate identifier n := by
  cases search with
  | free => rfl
  | taken used => exact absurd used free

theorem Finds.not_mem {used : List String} {identifier found : String} {n : Nat}
    (search : Finds used identifier n found) : found ∉ used := by
  induction search with
  | free untaken => exact untaken
  | taken _ _ ih => exact ih

theorem Finds.congr {used others : List String} (same : ∀ name, name ∈ used ↔ name ∈ others)
    {identifier found : String} {n : Nat} (search : Finds used identifier n found) :
    Finds others identifier n found := by
  induction search with
  | free untaken => exact .free fun mem => untaken ((same _).mpr mem)
  | taken held _ ih => exact .taken ((same _).mp held) ih

theorem finds_of_least {used : List String} {identifier : String} {n : Nat}
    (free : candidate identifier n ∉ used) (before : ∀ m < n, candidate identifier m ∈ used) :
    Finds used identifier 0 (candidate identifier n) := by
  suffices back : ∀ turns m, m + turns = n → Finds used identifier m (candidate identifier n) from
    back n 0 (Nat.zero_add n)
  intro turns
  -- Backwards from the candidate that is found: one turn more for each that is used.
  induction turns with
  | zero =>
      rintro m rfl
      exact .free free
  | succ turns ih =>
      intro m left
      exact .taken (before m (by omega)) (ih (m + 1) (by omega))

theorem finds_settle (register : Register) (request : Request) :
    Finds register.identifiers (register.wanted request) 0 (register.settle request) := by
  obtain ⟨n, written, untaken, before⟩ := register.free_eq_candidate (register.wanted request)
  rw [settle_eq_free_wanted, written]
  refine finds_of_least ?_ fun m less => taken_eq_true_iff.mp (before m less)
  intro mem
  rw [taken_eq_true_iff.mpr mem] at untaken
  cases untaken

def Holds (register : Register) (key identifier : String) : Prop :=
  Keyed.get? register.issued key = some identifier

theorem issue_cases (register : Register) (request : Request) :
    (Keyed.get? register.issued request.key = some (register.issue request).1 ∧
      (register.issue request).2 = register) ∨
    (request.key ∉ Keyed.keys register.issued ∧
      (register.issue request).1 = register.settle request ∧
      (register.issue request).2 =
        { register with
          issued := register.issued ++ [(request.key, register.settle request)] }) := by
  cases known : Keyed.get? register.issued request.key with
  | none =>
      have new := Keyed.get?_eq_none_iff.mp known
      rw [issue_of_new new]
      exact .inr ⟨new, rfl, rfl⟩
  | some identifier =>
      rw [issue_of_known known]
      exact .inl ⟨rfl, rfl⟩

theorem reserved_issue (register : Register) (request : Request) :
    (register.issue request).2.reserved = register.reserved := by
  obtain ⟨-, same⟩ | ⟨-, -, longer⟩ := register.issue_cases request
  · rw [same]
  · rw [longer]

theorem Holds.issue {key identifier : String} (held : register.Holds key identifier)
    (request : Request) : (register.issue request).2.Holds key identifier := by
  obtain ⟨-, same⟩ | ⟨-, -, longer⟩ := register.issue_cases request
  · rwa [same]
  · rw [longer, Holds, Keyed.get?_append, held]
    rfl

theorem holds_issue (register : Register) (request : Request) :
    (register.issue request).2.Holds request.key (register.issue request).1 := by
  obtain ⟨held, same⟩ | ⟨new, settled, longer⟩ := register.issue_cases request
  · rwa [same]
  · rw [longer, settled, Holds, Keyed.get?_append, Keyed.get?_eq_none_iff.mpr new]
    simp [Keyed.get?]

theorem Holds.issue_cases {key identifier : String} {request : Request}
    (held : (register.issue request).2.Holds key identifier) :
    register.Holds key identifier ∨ request.key = key ∧ identifier = register.settle request := by
  obtain ⟨-, same⟩ | ⟨-, -, longer⟩ := register.issue_cases request
  · rw [same] at held
    exact .inl held
  · rw [longer, Holds, Keyed.get?_append, Option.or_eq_some_iff, Keyed.get?_cons] at held
    refine held.imp_right fun ⟨_, new⟩ => ?_
    split at new
    case isTrue same => exact ⟨same.symm, (Option.some.inj new).symm⟩
    case isFalse => cases new

theorem mem_keys_issue {key : String} {request : Request} :
    key ∈ Keyed.keys (register.issue request).2.issued ↔
      key ∈ Keyed.keys register.issued ∨ key = request.key := by
  obtain ⟨held, same⟩ | ⟨-, -, longer⟩ := register.issue_cases request
  · rw [same, or_iff_left_of_imp]
    rintro rfl
    exact Keyed.exists_get?_iff.mp ⟨_, held⟩
  · rw [longer]
    simp [Keyed.keys]

theorem mem_identifiers_issue {identifier : String} {request : Request} :
    identifier ∈ (register.issue request).2.identifiers ↔
      identifier ∈ register.identifiers ∨ identifier = (register.issue request).1 := by
  obtain ⟨held, same⟩ | ⟨-, settled, longer⟩ := register.issue_cases request
  · rw [same, or_iff_left_of_imp]
    rintro rfl
    exact List.mem_map_of_mem (Keyed.mem_of_get? held)
  · rw [longer, settled]
    simp [identifiers]

theorem nodup_issue (distinct : register.identifiers.Nodup) (request : Request) :
    (register.issue request).2.identifiers.Nodup := by
  obtain ⟨-, same⟩ | ⟨-, -, longer⟩ := register.issue_cases request
  · rw [same]
    exact distinct
  · rw [longer, identifiers, List.map_append]
    refine List.nodup_append.mpr ⟨distinct, by simp, ?_⟩
    rintro held mem other settled rfl
    obtain rfl := List.mem_singleton.mp settled
    exact (register.finds_settle request).not_mem mem

theorem Holds.mem_identifiers {key identifier : String} (held : register.Holds key identifier) :
    identifier ∈ register.identifiers :=
  List.mem_map_of_mem (Keyed.mem_of_get? held)

theorem biUnique_holds (distinct : register.identifiers.Nodup) : Relator.BiUnique register.Holds := by
  constructor
  · intro key other identifier held held'
    have entry := List.inj_on_of_nodup_map distinct (Keyed.mem_of_get? held)
      (Keyed.mem_of_get? held') rfl
    exact congrArg Prod.fst entry
  · intro key identifier other held held'
    exact Option.some.inj (held.symm.trans held')

/-! ## Answers one after another -/

def after (register : Register) (requests : List Request) : Register :=
  requests.foldl (fun register request => (register.issue request).2) register

theorem after_append (register : Register) (requests others : List Request) :
    register.after (requests ++ others) = (register.after requests).after others :=
  List.foldl_append

theorem reserved_after (register : Register) (requests : List Request) :
    (register.after requests).reserved = register.reserved := by
  induction requests generalizing register with
  | nil => rfl
  | cons request rest ih =>
      show ((register.issue request).2.after rest).reserved = _
      rw [ih, reserved_issue]

theorem Holds.after {key identifier : String} (held : register.Holds key identifier)
    (requests : List Request) : (register.after requests).Holds key identifier := by
  induction requests generalizing register with
  | nil => exact held
  | cons request rest ih => exact ih (held.issue request)

theorem holds_after (register : Register) (requests : List Request) :
    List.Forall₂ (register.after requests).Holds (requests.map Request.key)
      (register.issueAll requests) := by
  induction requests generalizing register with
  | nil => exact .nil
  | cons request rest ih =>
      exact .cons ((register.holds_issue request).after rest) (ih (register.issue request).2)

theorem Holds.after_cases {key identifier : String} {requests : List Request}
    (held : (register.after requests).Holds key identifier) :
    register.Holds key identifier ∨
      ∃ request ∈ requests, request.key = key ∧
        ∃ state : Register, state.reserved = register.reserved ∧ identifier = state.settle request := by
  induction requests generalizing register with
  | nil => exact .inl held
  | cons request rest ih =>
      obtain held | ⟨other, mem, same, state, reserved, settled⟩ :=
        @ih (register.issue request).2 held
      · refine held.issue_cases.imp_right fun ⟨same, settled⟩ => ?_
        exact ⟨request, List.mem_cons_self, same, register, rfl, settled⟩
      · exact .inr ⟨other, List.mem_cons_of_mem _ mem, same, state,
          reserved.trans (register.reserved_issue request), settled⟩

theorem mem_keys_after {key : String} {requests : List Request} :
    key ∈ Keyed.keys (register.after requests).issued ↔
      key ∈ Keyed.keys register.issued ∨ key ∈ requests.map Request.key := by
  induction requests generalizing register with
  | nil => simp [after]
  | cons request rest ih =>
      show key ∈ Keyed.keys ((register.issue request).2.after rest).issued ↔ _
      rw [ih, mem_keys_issue, List.map_cons, List.mem_cons, or_assoc]

theorem mem_identifiers_after {identifier : String} {requests : List Request} :
    identifier ∈ (register.after requests).identifiers ↔
      identifier ∈ register.identifiers ∨ identifier ∈ register.issueAll requests := by
  induction requests generalizing register with
  | nil => simp [after, issueAll]
  | cons request rest ih =>
      show identifier ∈ ((register.issue request).2.after rest).identifiers ↔ _
      rw [ih, mem_identifiers_issue, issueAll, List.mem_cons, or_assoc]

theorem nodup_after (distinct : register.identifiers.Nodup) (requests : List Request) :
    (register.after requests).identifiers.Nodup := by
  induction requests generalizing register with
  | nil => exact distinct
  | cons request rest ih => exact ih (nodup_issue distinct request)

theorem take_issueAll (register : Register) (requests : List Request) (n : Nat) :
    (register.issueAll requests).take n = register.issueAll (requests.take n) := by
  induction requests generalizing register n with
  | nil => simp [issueAll]
  | cons request rest ih =>
      cases n with
      | zero => rfl
      | succ n => rw [issueAll, List.take_succ_cons, ih, List.take_succ_cons, issueAll]

theorem getElem?_issueAll (register : Register) (requests : List Request) (n : Nat) :
    (register.issueAll requests)[n]? =
      requests[n]?.map fun request => ((register.after (requests.take n)).issue request).1 := by
  induction requests generalizing register n with
  | nil => rfl
  | cons request rest ih =>
      cases n with
      | zero => rfl
      | succ n =>
          rw [issueAll, List.getElem?_cons_succ, ih]
          rfl

theorem issueAll_nodup_iff (distinct : register.identifiers.Nodup) {requests : List Request} :
    (register.issueAll requests).Nodup ↔ (requests.map Request.key).Nodup :=
  (List.rel_nodup (biUnique_holds (nodup_after distinct requests))
    (register.holds_after requests)).symm

theorem exists_answer {requests : List Request} {request : Request} {n : Nat}
    (there : requests[n]? = some request) :
    ∃ answer, (register.issueAll requests)[n]? = some answer ∧
      (register.after requests).Holds request.key answer := by
  obtain ⟨answer, answered⟩ : ∃ answer, (register.issueAll requests)[n]? = some answer := by
    rw [getElem?_issueAll, there]
    exact ⟨_, rfl⟩
  have keyed : (requests.map Request.key)[n]? = some request.key := by
    rw [List.getElem?_map, there]
    rfl
  have pair : (request.key, answer) ∈
      (requests.map Request.key).zip (register.issueAll requests) :=
    List.mem_of_getElem? (List.getElem?_zip_eq_some.mpr ⟨keyed, answered⟩)
  exact ⟨answer, answered, (List.forall₂_iff_zip.mp (register.holds_after requests)).2 pair⟩

theorem mem_issueAll_cases {p : String → Prop} {requests : List Request}
    (held : ∀ identifier ∈ register.identifiers, p identifier)
    (settled : ∀ state : Register, state.reserved = register.reserved →
      ∀ request ∈ requests, p (state.settle request)) :
    ∀ answer ∈ register.issueAll requests, p answer := by
  induction requests generalizing register with
  | nil => intro answer mem; cases mem
  | cons request rest ih =>
      have first : p (register.issue request).1 := by
        obtain ⟨known, -⟩ | ⟨-, same, -⟩ := register.issue_cases request
        · exact held _ (List.mem_map_of_mem (Keyed.mem_of_get? known))
        · rw [same]
          exact settled register rfl request List.mem_cons_self
      intro answer mem
      rcases List.mem_cons.mp mem with rfl | mem
      · exact first
      · refine @ih (register.issue request).2 ?_ ?_ answer mem
        · intro identifier mem
          rcases mem_identifiers_issue.mp mem with mem | rfl
          · exact held identifier mem
          · exact first
        · intro state same other mem
          exact settled state (same.trans (register.reserved_issue request)) other
            (List.mem_cons_of_mem _ mem)

/-! ## Answers of a new register -/

theorem isReserved_congr {other : Register} (same : other.reserved = register.reserved)
    (identifier : String) : other.isReserved identifier = register.isReserved identifier := by
  rw [isReserved, isReserved, same]

theorem wanted_congr {other : Register} (same : other.reserved = register.reserved)
    (request : Request) : other.wanted request = register.wanted request := by
  rw [wanted, wanted, isReserved_congr same]

private theorem mem_take_iff {α : Type} {items : List α} {item : α} {n : Nat} :
    item ∈ items.take n ↔ ∃ m < n, items[m]? = some item := by
  simp [List.mem_iff_getElem?, List.getElem?_take]

variable {requests : List Request} {request : Request} {n : Nat}

theorem mem_identifiers_reset {identifier : String} :
    identifier ∈ (register.reset.after requests).identifiers ↔
      identifier ∈ register.reset.issueAll requests := by
  rw [mem_identifiers_after]
  exact or_iff_right List.not_mem_nil

theorem finds_answer {suffix : String} (alike : ∀ request ∈ requests, request.suffix = suffix)
    (there : requests[n]? = some request) (new : request ∉ requests.take n) :
    ∃ answer, (register.reset.issueAll requests)[n]? = some answer ∧
      Finds ((register.reset.issueAll requests).take n) (register.wanted request) 0 answer := by
  have newKey : request.key ∉ Keyed.keys (register.reset.after (requests.take n)).issued := by
    rw [mem_keys_after]
    rintro (held | asked)
    · cases held
    · obtain ⟨other, mem, same⟩ := List.mem_map.mp asked
      have suffixes : other.suffix = request.suffix :=
        (alike _ (List.mem_of_mem_take mem)).trans (alike _ (List.mem_of_getElem? there)).symm
      exact new (Request.key_inj suffixes same ▸ mem)
  have search := finds_settle (register.reset.after (requests.take n)) request
  rw [wanted_congr (register.reset.reserved_after _), wanted_congr rfl] at search
  refine ⟨_, by rw [getElem?_issueAll, there, Option.map_some, issue_of_new newKey], ?_⟩
  rw [take_issueAll]
  exact search.congr fun name => mem_identifiers_reset

theorem answer_eq_converted {suffix : String}
    (alike : ∀ request ∈ requests, request.suffix = suffix)
    (there : requests[n]? = some request) (unreserved : register.isReserved request.converted = false)
    (free : request.converted ∉ (register.reset.issueAll requests).take n) :
    (register.reset.issueAll requests)[n]? = some request.converted := by
  induction n using Nat.strongRecOn with
  | ind n ih =>
      by_cases new : request ∈ requests.take n
      case neg =>
        obtain ⟨answer, answered, search⟩ := finds_answer alike there new
        have wished : register.wanted request = request.converted := by
          rw [wanted, unreserved]
          rfl
        rw [wished] at search
        rw [answered, search.eq_of_not_mem free]
        rfl
      case pos =>
        obtain ⟨m, earlier, same⟩ := mem_take_iff.mp new
        have before := List.take_subset_take_left (register.reset.issueAll requests)
          (Nat.le_of_lt earlier)
        have answered := ih m earlier same fun mem => free (before mem)
        exact absurd (mem_take_iff.mpr ⟨m, earlier, answered⟩) free

theorem isReserved_answer (ends : register.HasOpenEnds)
    (suffix : ∀ request ∈ requests, request.suffix = "_") :
    ∀ answer ∈ register.reset.issueAll requests, register.isReserved answer = false := by
  apply mem_issueAll_cases
  · intro identifier mem
    cases mem
  · intro state (same : state.reserved = register.reserved) request mem
    have ends' : state.HasOpenEnds := by
      rw [HasOpenEnds, same]
      exact ends
    rw [← isReserved_congr same]
    exact isReserved_settle ends' (suffix request mem)

theorem offers_of_mem_issueAll (words : register.HasPlainWords) {requests : List Request}
    (usual : ∀ request ∈ requests, request.IsUsual) :
    ∀ identifier ∈ register.reset.issueAll requests, register.reset.Offers identifier := by
  have named : ∀ identifier ∈ register.reset.issueAll requests,
      IsPlain identifier.toList ∧ register.reset.isReserved identifier = false := by
    apply mem_issueAll_cases
    · intro identifier mem
      cases mem
    · intro state same request mem
      have words' : state.HasPlainWords := by
        rw [HasPlainWords, same]
        exact words
      have offers := offers_settle words' (usual request mem)
      exact ⟨offers.plain, isReserved_congr same _ ▸ offers.unreserved⟩
  exact fun identifier mem => ⟨(named identifier mem).1, (named identifier mem).2, rfl⟩

/--
A register that nothing was asked before, new or reset, answers any requests that share their suffix
for reserved words: the same request with the same identifier, different ones with different
identifiers, and a new one after a search among the candidates that ends.  A name that is neither
reserved nor handed out before becomes its own identifier.  With an underscore for a suffix, no
answer is a reserved word, if no reserved word ends in an underscore or a digit, as is so for both
registers of the library.
-/
theorem answers_of_requests (register : Register) {suffix : String}
    (alike : ∀ request ∈ requests, request.suffix = suffix) :
    (register.reset.issueAll requests).length = requests.length ∧
      (∀ (i j : Nat) request other, requests[i]? = some request → requests[j]? = some other →
        ((register.reset.issueAll requests)[i]? = (register.reset.issueAll requests)[j]? ↔
          request = other)) ∧
      (∀ (i : Nat) request, requests[i]? = some request → request ∉ requests.take i →
        ∃ answer, (register.reset.issueAll requests)[i]? = some answer ∧
          Finds ((register.reset.issueAll requests).take i) (register.wanted request) 0 answer) ∧
      (∀ (i : Nat) request, requests[i]? = some request →
        register.isReserved request.converted = false →
        request.converted ∉ (register.reset.issueAll requests).take i →
          (register.reset.issueAll requests)[i]? = some request.converted) ∧
      (register.HasOpenEnds → suffix = "_" →
        ∀ answer ∈ register.reset.issueAll requests, register.isReserved answer = false) ∧
      forScripts.HasOpenEnds ∧ forModels.HasOpenEnds := by
  refine ⟨register.reset.length_issueAll requests, ?_, ?_, ?_, ?_,
    hasPlainWords_forScripts.hasOpenEnds, hasPlainWords_forModels.hasOpenEnds⟩
  · intro i j request other first second
    obtain ⟨answer, answered, held⟩ := register.reset.exists_answer first
    obtain ⟨answer', answered', held'⟩ := register.reset.exists_answer second
    have nothing : register.reset.identifiers.Nodup := List.nodup_nil
    obtain ⟨keyed, answer_eq⟩ := biUnique_holds (nodup_after nothing requests)
    rw [answered, answered', Option.some_inj]
    constructor
    · rintro rfl
      have alike := (alike _ (List.mem_of_getElem? first)).trans
        (alike _ (List.mem_of_getElem? second)).symm
      exact Request.key_inj alike (keyed held held')
    · rintro rfl
      exact answer_eq held held'
  · exact fun i request there new => finds_answer alike there new
  · exact fun i request there unreserved free => answer_eq_converted alike there unreserved free
  · rintro ends rfl
    exact isReserved_answer ends alike

def classRequests : List Request :=
  [{ name := "class", style := .pascal }, { name := "Class", style := .pascal },
   { name := "class", style := .camel }, { name := "class", style := .pascal },
   { name := "9 lives", style := .kebab }]

theorem answers_of_requests_class :
    (∀ request ∈ classRequests, request.suffix = "_") ∧
      forScripts.reset.issueAll classRequests =
        ["Class_", "Class_1", "class_", "Class_", "9-lives"] ∧
      Finds ["Class_"] "Class_" 0 "Class_1" ∧ forScripts.HasOpenEnds ∧
      ∀ answer ∈ ["Class_", "Class_1", "class_", "Class_", "9-lives"],
        forScripts.isReserved answer = false := by
  have alike : ∀ request ∈ classRequests, request.suffix = "_" := by decide
  have answers : forScripts.reset.issueAll classRequests =
      ["Class_", "Class_1", "class_", "Class_", "9-lives"] := by decide +kernel
  have wanted : forScripts.wanted { name := "Class", style := .pascal } = "Class_" := by
    decide +kernel
  obtain ⟨-, -, searches, -, unreserved, ends, -⟩ := answers_of_requests forScripts alike
  rw [answers] at searches unreserved
  obtain ⟨answer, answered, search⟩ := searches 1 _ rfl (by decide)
  obtain rfl : "Class_1" = answer := Option.some.inj answered
  rw [wanted] at search
  exact ⟨alike, answers, search, ends, unreserved ends rfl⟩

end SchemaArtifacts.Naming.Register
