/-!
# Substitution

Occurrences of a pattern are replaced from left to right; a replaced stretch is not looked at
again.
-/

namespace SchemaArtifacts.Text

def afterPattern? : List Char → List Char → Option (List Char)
  | [], cs => some cs
  | _ :: _, [] => none
  | p :: pattern, c :: cs => if p = c then afterPattern? pattern cs else none

theorem afterPattern?_eq_some_iff {pattern cs rest : List Char} :
    afterPattern? pattern cs = some rest ↔ cs = pattern ++ rest := by
  fun_induction afterPattern? pattern cs with
  | case1 => simp
  | case2 => simp
  | case3 pattern p cs ih => simp [ih]
  | case4 p pattern c cs h =>
    simp only [reduceCtorEq, List.cons_append, List.cons.injEq, false_iff]
    exact fun e => h e.1.symm

/-- The first character of the pattern is given apart, so that a pattern is never empty. -/
def replaceChars (first : Char) (others replacement : List Char) (cs : List Char) : List Char :=
  match cs with
  | [] => []
  | c :: rest =>
    match _h : afterPattern? (first :: others) (c :: rest) with
    | some tail => replacement ++ replaceChars first others replacement tail
    | none => c :: replaceChars first others replacement rest
termination_by cs.length
decreasing_by
  · have := congrArg List.length (afterPattern?_eq_some_iff.1 _h)
    simp at this ⊢
    omega
  · simp

theorem replaceChars_of_match {first : Char} {others replacement cs tail : List Char}
    (h : afterPattern? (first :: others) cs = some tail) :
    replaceChars first others replacement cs =
      replacement ++ replaceChars first others replacement tail := by
  cases cs with
  | nil => simp [afterPattern?] at h
  | cons c rest =>
    rw [replaceChars]
    split <;> simp_all

theorem replaceChars_of_no_match {first c : Char} {others replacement rest : List Char}
    (h : afterPattern? (first :: others) (c :: rest) = none) :
    replaceChars first others replacement (c :: rest) =
      c :: replaceChars first others replacement rest := by
  rw [replaceChars]
  split <;> simp_all

theorem replaceChars_singleton (first : Char) (replacement cs : List Char) :
    replaceChars first [] replacement cs =
      cs.flatMap fun c => if c = first then replacement else [c] := by
  induction cs with
  | nil => simp [replaceChars]
  | cons c rest ih =>
    by_cases h : c = first
    · have found : afterPattern? [first] (c :: rest) = some rest := by
        simp [afterPattern?, h]
      rw [replaceChars_of_match found, ih, List.flatMap_cons, if_pos h]
    · rw [replaceChars_of_no_match (by simp [afterPattern?, Ne.symm h]), ih, List.flatMap_cons,
        if_neg h, List.singleton_append]

def replace (pattern replacement s : String) : String :=
  match pattern.toList with
  | [] => s
  | first :: others => String.ofList (replaceChars first others replacement.toList s.toList)

theorem toList_replace_singleton (c : Char) (replacement s : String) :
    (replace (String.singleton c) replacement s).toList =
      s.toList.flatMap fun d => if d = c then replacement.toList else [d] := by
  simp [replace, replaceChars_singleton]

def occursIn (pattern : List Char) : List Char → Bool
  | [] => pattern.isEmpty
  | c :: rest => pattern.isPrefixOf (c :: rest) || occursIn pattern rest

def contains (s pattern : String) : Bool := occursIn pattern.toList s.toList

def hasStart (s start : String) : Bool := start.toList.isPrefixOf s.toList

def hasEnd (s ending : String) : Bool := ending.toList.isSuffixOf s.toList

end SchemaArtifacts.Text
