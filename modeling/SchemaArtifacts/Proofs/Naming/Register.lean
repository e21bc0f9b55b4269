import SchemaArtifacts.Naming.Register
import SchemaArtifacts.Proofs.Naming.Characters
import SchemaArtifacts.Proofs.Text.Numerals

/-!
# Names of a register

Requests that differ are answered with identifiers that differ, and no answer is a reserved word:
a suffix or a number makes an identifier that no reserved word is.
-/

namespace SchemaArtifacts.Naming

open Text

/-- The requests of generated modules: no hyphens, and an underscore after reserved words. -/
structure Request.IsUsual (request : Request) : Prop where
  style : request.style ≠ .kebab
  suffix : request.suffix = "_"

theorem Request.key_inj {request other : Request} (suffix : request.suffix = other.suffix)
    (same : request.key = other.key) : request = other := by
  obtain ⟨name, style, suffix'⟩ := request
  obtain ⟨name', style', _⟩ := other
  obtain rfl : suffix' = _ := suffix
  have tagged : name ++ "_" ++ style.tag = name' ++ "_" ++ style'.tag :=
    String.append_left_inj _ |>.mp (String.append_left_inj _ |>.mp same)
  have ends := congrArg (fun s : String => s.toList.reverse) tagged
  cases style <;> cases style' <;>
    simp [CaseStyle.tag, String.toList_inj] at ends ⊢ <;> exact ends

/-- The name as an identifier in the style that is asked for. -/
def Request.converted (request : Request) : String := convert request.style (clean request.name)

namespace Register

def identifiers (register : Register) : List String := register.issued.map (·.2)

theorem candidate_inj {identifier : String} {m n : Nat}
    (same : candidate identifier m = candidate identifier n) : m = n := by
  have nonempty : ∀ n, identifier ++ numeral (n + 1) ≠ identifier := by
    intro n equal
    rw [← String.toList_inj, String.toList_append, numeral, String.toList_ofList,
      List.append_right_eq_self] at equal
    exact numeralChars_ne_nil _ equal
  cases m with
  | zero =>
      cases n with
      | zero => rfl
      | succ n => exact absurd same.symm (nonempty n)
  | succ m =>
      cases n with
      | zero => exact absurd same (nonempty m)
      | succ n => exact numeral_inj.mp (String.append_right_inj _ |>.mp same)

variable {register : Register}

theorem taken_eq_true_iff {identifier : String} :
    register.taken identifier = true ↔ identifier ∈ register.identifiers := by
  simp [taken, identifiers]

theorem exists_free (register : Register) (identifier : String) :
    ∃ n < register.issued.length + 1, register.taken (candidate identifier n) = false := by
  apply Classical.byContradiction
  intro noneFree
  have all : ∀ n < register.issued.length + 1, register.taken (candidate identifier n) = true := by
    intro n small
    cases found : register.taken (candidate identifier n) with
    | true => rfl
    | false => exact absurd ⟨n, small, found⟩ noneFree
  have distinct : ((List.range (register.issued.length + 1)).map (candidate identifier)).Nodup := by
    refine List.pairwise_map.mpr (List.nodup_range.imp ?_)
    exact fun apart same => apart (candidate_inj same)
  have inside : (List.range (register.issued.length + 1)).map (candidate identifier) ⊆
      register.identifiers := by
    intro name mem
    obtain ⟨n, small, rfl⟩ := List.mem_map.mp mem
    exact taken_eq_true_iff.mp (all n (List.mem_range.mp small))
  -- All candidates differ, so they cannot all be among the fewer identifiers issued.
  have fewer := distinct.length_le_of_subset inside
  rw [List.length_map, List.length_range, identifiers, List.length_map] at fewer
  omega

theorem free_eq_candidate (register : Register) (identifier : String) :
    ∃ n, register.free identifier = candidate identifier n ∧
      register.taken (candidate identifier n) = false ∧
      ∀ m < n, register.taken (candidate identifier m) = true := by
  let untaken (n : Nat) : Bool := !register.taken (candidate identifier n)
  obtain ⟨enough, small, untakenThere⟩ := exists_free register identifier
  have present : ((List.range (register.issued.length + 1)).find? untaken).isSome = true := by
    rw [List.find?_isSome]
    exact ⟨enough, List.mem_range.mpr small, by simp [untaken, untakenThere]⟩
  obtain ⟨n, found⟩ := Option.isSome_iff_exists.mp present
  have free : register.free identifier = candidate identifier n := by
    rw [Register.free, List.find?_map]
    show (Option.map _ ((List.range (register.issued.length + 1)).find? untaken)).getD _ = _
    rw [found]
    rfl
  obtain ⟨here, -, before⟩ := List.find?_range_eq_some.mp found
  exact ⟨n, free, by simpa [untaken] using here, fun m less => by simpa [untaken] using before m less⟩

def HasPlainWords (register : Register) : Prop :=
  ∀ word ∈ register.reserved, ∀ c ∈ word.toList, isAsciiLetter c = true

theorem hasPlainWords_forScripts : forScripts.HasPlainWords := by
  have all : (scriptWords.all fun word => word.toList.all isAsciiLetter) = true := by decide
  intro word mem
  exact List.all_eq_true.mp (List.all_eq_true.mp all word mem)

theorem hasPlainWords_forModels : forModels.HasPlainWords := by
  have all : (modelWords.all fun word => word.toList.all isAsciiLetter) = true := by decide
  intro word mem
  exact List.all_eq_true.mp (List.all_eq_true.mp all word mem)

def isMark (c : Char) : Bool := c == '_' || isAsciiDigit c

def HasOpenEnds (register : Register) : Prop :=
  ∀ word ∈ register.reserved, ∀ c ∈ word.toList.getLast?, isMark c = false

theorem HasPlainWords.hasOpenEnds (words : register.HasPlainWords) : register.HasOpenEnds := by
  intro word mem c last
  have letter := words word mem c (List.mem_of_mem_getLast? last)
  exact isNameChar.of_ascii (by simp [isNameChar, letter])
    (p := fun c => isAsciiLetter c = true → isMark c = false) (by decide) letter

theorem isReserved_eq_false (ends : register.HasOpenEnds) {identifier : String}
    (ascii : ∀ c ∈ identifier.toList, c.toNat < 0x80) {c : Char}
    (last : identifier.toList.getLast? = some c) (mark : isMark c = true) :
    register.isReserved identifier = false := by
  have name : isNameChar c = true := by
    rcases Bool.or_eq_true_iff.mp mark with underscore | digit
    · simp [isNameChar, underscore]
    · simp [isNameChar, digit]
  have kept : isMark c.toLower = true :=
    isNameChar.of_ascii name (p := fun c => isMark c = true → isMark c.toLower = true) (by decide)
      mark
  have lowered : (lower identifier).toList.getLast? = some c.toLower := by
    rw [lower, String.toList_ofList, lowerChars_ascii ascii, List.getLast?_map, last]
    rfl
  cases reserved : register.isReserved identifier with
  | false => rfl
  | true =>
      have open' := ends _ (List.contains_iff_mem.mp reserved) _ lowered
      rw [kept] at open'
      exact absurd open' (by decide)

/-- The identifier that a request is answered with unless it is taken. -/
def wanted (register : Register) (request : Request) : String :=
  if register.isReserved request.converted then request.converted ++ request.suffix
  else request.converted

theorem settle_eq_free_wanted (register : Register) (request : Request) :
    register.settle request = register.free (register.wanted request) := rfl

theorem ascii_wanted (register : Register) {request : Request} (suffix : request.suffix = "_") :
    ∀ c ∈ (register.wanted request).toList, c.toNat < 0x80 := by
  have ascii := ascii_convert_clean request.style request.name
  intro c mem
  rw [wanted, suffix] at mem
  split at mem
  · rw [String.toList_append] at mem
    rcases List.mem_append.mp mem with mem | mem
    · exact ascii c mem
    · obtain rfl := List.mem_singleton.mp mem
      decide
  · exact ascii c mem

theorem isReserved_wanted (ends : register.HasOpenEnds) {request : Request}
    (suffix : request.suffix = "_") : register.isReserved (register.wanted request) = false := by
  have ascii := register.ascii_wanted suffix
  rw [wanted, suffix] at ascii ⊢
  split
  case isTrue reserved =>
    rw [if_pos reserved] at ascii
    exact isReserved_eq_false ends ascii (c := '_') (by simp) rfl
  case isFalse unreserved => simpa using unreserved

theorem isPlain_numeral (n : Nat) : IsPlain (numeral n).toList := by
  intro c mem
  rw [numeral, String.toList_ofList] at mem
  simp [isNameChar, isAsciiDigit_of_mem_numeralChars mem]

theorem isReserved_candidate (ends : register.HasOpenEnds) {identifier : String}
    (ascii : ∀ c ∈ identifier.toList, c.toNat < 0x80)
    (unreserved : register.isReserved identifier = false) (n : Nat) :
    register.isReserved (candidate identifier n) = false := by
  cases n with
  | zero => exact unreserved
  | succ n =>
      have nonempty := numeralChars_ne_nil (n + 1)
      have digit : isMark ((numeralChars (n + 1)).getLast nonempty) = true := by
        simp [isMark, isAsciiDigit_of_mem_numeralChars (List.getLast_mem nonempty)]
      refine isReserved_eq_false ends ?_ ?_ digit
      · intro c mem
        rw [candidate, String.toList_append] at mem
        rcases List.mem_append.mp mem with mem | mem
        · exact ascii c mem
        · exact (isPlain_numeral _).ascii c mem
      · simp [candidate, numeral, List.getLast?_append, List.getLast?_eq_some_getLast nonempty]

theorem isReserved_settle (ends : register.HasOpenEnds) {request : Request}
    (suffix : request.suffix = "_") : register.isReserved (register.settle request) = false := by
  obtain ⟨n, written, -⟩ := register.free_eq_candidate (register.wanted request)
  rw [settle_eq_free_wanted, written]
  exact isReserved_candidate ends (register.ascii_wanted suffix) (isReserved_wanted ends suffix) n

/-- An identifier of plain characters that is neither reserved nor taken. -/
structure Offers (register : Register) (identifier : String) : Prop where
  plain : IsPlain identifier.toList
  unreserved : register.isReserved identifier = false
  untaken : register.taken identifier = false

theorem isPlain_candidate {identifier : String} (plain : IsPlain identifier.toList) (n : Nat) :
    IsPlain (candidate identifier n).toList := by
  cases n with
  | zero => exact plain
  | succ n =>
      rw [candidate, String.toList_append]
      exact plain.append (isPlain_numeral _)

theorem isPlain_wanted (register : Register) {request : Request} (usual : request.IsUsual) :
    IsPlain (register.wanted request).toList := by
  have plain := isPlain_convert_clean usual.style request.name
  rw [wanted, usual.suffix]
  split
  · rw [String.toList_append]
    exact plain.append (by simp [IsPlain, isNameChar])
  · exact plain

theorem offers_settle (words : register.HasPlainWords) {request : Request}
    (usual : request.IsUsual) : register.Offers (register.settle request) := by
  obtain ⟨n, written, untaken, -⟩ := register.free_eq_candidate (register.wanted request)
  refine ⟨?_, isReserved_settle words.hasOpenEnds usual.suffix, ?_⟩
  · rw [settle_eq_free_wanted, written]
    exact isPlain_candidate (register.isPlain_wanted usual) n
  · rw [settle_eq_free_wanted, written]
    exact untaken

theorem issue_of_new {request : Request} (new : request.key ∉ Keyed.keys register.issued) :
    register.issue request =
      (register.settle request,
       { register with
         issued := register.issued ++ [(request.key, register.settle request)] }) := by
  rw [issue, Keyed.get?_eq_none_iff.mpr new]

theorem issue_of_known {request : Request} {identifier : String}
    (known : Keyed.get? register.issued request.key = some identifier) :
    register.issue request = (identifier, register) := by
  rw [issue, known]

def issueAll (register : Register) : List Request → List String
  | [] => []
  | request :: rest => (register.issue request).1 :: (register.issue request).2.issueAll rest

theorem length_issueAll (register : Register) (requests : List Request) :
    (register.issueAll requests).length = requests.length := by
  induction requests generalizing register with
  | nil => rfl
  | cons request rest ih => rw [issueAll, List.length_cons, ih, List.length_cons]

theorem Offers.not_mem_scriptWords {identifier : String} (offers : forScripts.Offers identifier) :
    lower identifier ∉ scriptWords := by
  intro mem
  have reserved : forScripts.isReserved identifier = true := List.contains_iff_mem.mpr mem
  rw [offers.unreserved] at reserved
  exact absurd reserved Bool.false_ne_true

end Register

end SchemaArtifacts.Naming
