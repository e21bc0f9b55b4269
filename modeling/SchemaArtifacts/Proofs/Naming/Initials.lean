import SchemaArtifacts.Proofs.Naming.Answers
import SchemaArtifacts.Proofs.Naming.Stems

/-!
# Initials of identifiers

The first character of an identifier, whatever its style, is the first letter or digit of the name
that it is made from.  The underscore that keeps a digit from the front of a cleaned name is trimmed
again when the name is put into a style.
-/

namespace SchemaArtifacts.Naming

open Text

theorem find?_splitWords (cs : List Char) :
    (splitWords cs).find? (· != '_') = cs.find? (· != '_') := by
  fun_induction splitWords cs with
  | case1 => rfl
  | case2 c => rfl
  | case3 c next rest splits ih =>
      have shown : (c != '_') = true := by
        rw [bne_iff_ne]
        rintro rfl
        simp [endsWord, isAsciiDigit] at splits
      simp [shown]
  | case4 c next rest whole ih => simp only [List.find?_cons, ih]

theorem find?_mergeUnderscores (cs : List Char) :
    (mergeUnderscores cs).find? (· != '_') = cs.find? (· != '_') := by
  fun_induction mergeUnderscores cs with
  | case1 => rfl
  | case2 c => rfl
  | case3 c next rest merges ih =>
      obtain ⟨rfl, -⟩ : c = '_' ∧ next = '_' := by simpa using merges
      rw [ih]
      simp
  | case4 c next rest apart ih => simp only [List.find?_cons, ih]

theorem find?_lowerChars {cs : List Char} (plain : IsPlain cs) :
    (lowerChars cs).find? (· != '_') = (cs.find? (· != '_')).map Char.toLower := by
  rw [lowerChars_ascii plain.ascii]
  induction cs with
  | nil => rfl
  | cons c rest ih =>
      have same : (c.toLower != '_') = (c != '_') :=
        isNameChar.of_ascii (plain c List.mem_cons_self)
          (p := fun c => (c.toLower != '_') = (c != '_')) (by decide)
      rw [List.map_cons, List.find?_cons, List.find?_cons, same,
        ih (plain.of_subset (List.subset_cons_self c rest))]
      split <;> rfl

theorem isSign.of_ascii {c : Char} {p : Char → Prop} (sign : isSign c = true)
    (all : ∀ n : Fin 128, isSign (Char.ofNat n) = true → p (Char.ofNat n)) : p c :=
  isNameChar.of_ascii (isNameChar_of_isSign sign) (p := fun c => isSign c = true → p c)
    (fun n _ => all n) sign

theorem head?_snakeChars (name : String) :
    (snakeChars (cleanChars name.toList)).head? = some (firstSign name).toLower := by
  have cleaned : ((cleanChars name.toList).map fun c => if c = '-' then '_' else c) =
      (cleanPlain name).toList := String.toList_ofList.symm
  have plain := isPlain_cleanPlain name
  rw [snakeChars, cleaned]
  refine (head?_dropEnds (· == '_') _).trans ?_
  refine (find?_mergeUnderscores _).trans ?_
  rw [find?_lowerChars plain.splitWords, find?_splitWords, find?_cleanPlain, Option.map_some]

theorem exists_words_eq (name : String) :
    ∃ rest others,
      words (cleanChars name.toList) = ((firstSign name).toLower :: rest) :: others := by
  have first := head?_snakeChars name
  have apart : (firstSign name).toLower ≠ '_' :=
    isSign.of_ascii (isSign_firstSign name) (p := fun c => c.toLower ≠ '_') (by decide)
  cases written : snakeChars (cleanChars name.toList) with
  | nil => simp [written] at first
  | cons c cs =>
      obtain rfl : c = (firstSign name).toLower := by simpa [written] using first
      obtain ⟨word, others, cut⟩ := List.exists_cons_of_ne_nil (List.splitOn_ne_nil '_' cs)
      refine ⟨word, others, ?_⟩
      rw [words, written, List.splitOn_cons_eq_if_modifyHead, if_neg (by simpa using apart), cut]
      rfl

def CaseStyle.initial : CaseStyle → Char → Char
  | .pascal => Char.toUpper
  | _ => Char.toLower

theorem isAsciiDigit_initial (style : CaseStyle) {c : Char} (sign : isSign c = true) :
    isAsciiDigit (style.initial c) = isAsciiDigit c := by
  cases style <;>
    exact isSign.of_ascii sign (p := fun c => isAsciiDigit (CaseStyle.initial _ c) = isAsciiDigit c)
      (by decide)

theorem head?_convert_clean (style : CaseStyle) (name : String) :
    (convert style (clean name)).toList.head? = some (style.initial (firstSign name)) := by
  have sign := isSign_firstSign name
  obtain ⟨rest, others, cut⟩ := exists_words_eq name
  have plain : IsPlain ((firstSign name).toLower :: rest) :=
    isPlain_of_mem_words (fun c mem => isIdentifierChar_of_mem_cleanChars mem)
      (cut ▸ List.mem_cons_self)
  rw [convert, clean, String.toList_ofList, String.toList_ofList]
  cases style with
  | snake => exact head?_snakeChars name
  | camel =>
      have again : (firstSign name).toLower.toLower = (firstSign name).toLower :=
        isSign.of_ascii sign (p := fun c => c.toLower.toLower = c.toLower) (by decide)
      rw [convertChars, camelChars, cut]
      simp only [lowerChars_ascii plain.ascii, List.map_cons, List.cons_append, List.head?_cons,
        again]
      rfl
  | pascal =>
      have raised : (firstSign name).toLower.toUpper = (firstSign name).toUpper :=
        isSign.of_ascii sign (p := fun c => c.toLower.toUpper = c.toUpper) (by decide)
      rw [convertChars, pascalChars, cut, List.flatMap_cons, capitalizeChars_ascii plain.ascii,
        raised]
      rfl
  | kebab =>
      have apart : (firstSign name).toLower ≠ '_' :=
        isSign.of_ascii sign (p := fun c => c.toLower ≠ '_') (by decide)
      rw [convertChars, kebabChars, List.head?_map, head?_snakeChars, Option.map_some,
        if_neg apart]
      rfl

/-- An identifier of plain characters that starts as its style writes the name. -/
structure Request.IsShownBy (request : Request) (identifier : String) : Prop where
  plain : IsPlain identifier.toList
  starts : identifier.toList.head? = some (request.style.initial (firstSign request.name))

variable {request : Request}

theorem Request.IsShownBy.append {identifier ending : String} (shown : request.IsShownBy identifier)
    (plain : IsPlain ending.toList) : request.IsShownBy (identifier ++ ending) where
  plain := by
    rw [String.toList_append]
    exact shown.plain.append plain
  starts := by rw [String.toList_append, List.head?_append, shown.starts, Option.some_or]

theorem isShownBy_converted (noKebab : request.style ≠ .kebab) :
    request.IsShownBy request.converted :=
  ⟨isPlain_convert_clean noKebab request.name, head?_convert_clean request.style request.name⟩

theorem Register.isShownBy_settle (register : Register) (usual : request.IsUsual) :
    request.IsShownBy (register.settle request) := by
  have shown := isShownBy_converted usual.style
  have wanted : request.IsShownBy (register.wanted request) := by
    rw [Register.wanted, usual.suffix]
    split
    · exact shown.append (by decide)
    · exact shown
  obtain ⟨n, written, -⟩ := register.free_eq_candidate (register.wanted request)
  rw [Register.settle_eq_free_wanted, written]
  cases n with
  | zero => exact wanted
  | succ n => exact wanted.append (Register.isPlain_numeral _)

theorem Register.Holds.isShownBy {register : Register} {requests : List Request}
    (usual : ∀ request ∈ requests, request.IsUsual) (suffix : request.suffix = "_")
    {identifier : String} (held : (register.reset.after requests).Holds request.key identifier) :
    request.IsShownBy identifier := by
  obtain before | ⟨other, mem, same, state, -, rfl⟩ := held.after_cases
  · cases before
  · have asked := usual other mem
    obtain rfl : other = request := Request.key_inj (asked.suffix.trans suffix.symm) same
    exact state.isShownBy_settle asked

theorem Register.isShownBy_issueAll {register : Register} {requests : List Request}
    (usual : ∀ request ∈ requests, request.IsUsual) :
    List.Forall₂ Request.IsShownBy requests (register.reset.issueAll requests) := by
  have held := register.reset.holds_after requests
  rw [List.forall₂_map_left_iff] at held
  refine List.forall₂_iff_zip.mpr ⟨held.length_eq, fun {request identifier} mem => ?_⟩
  have suffix := (usual request (List.of_mem_zip mem).1).suffix
  exact ((List.forall₂_iff_zip.mp held).2 mem).isShownBy usual suffix

end SchemaArtifacts.Naming
