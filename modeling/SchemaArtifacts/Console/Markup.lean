import SchemaArtifacts.Console.Emoji

/-!
# Console markup

Text for the console may hold tags in square brackets, which set a style and are not shown.  A
backslash before a tag makes it plain text, and backslashes before a tag are written twice.
Escaping prepares a text so that it shows as it is.
-/

namespace SchemaArtifacts.Console

inductive Piece
  | char (c : Char)
  /-- A tag with the backslashes before it. -/
  | tag (slashes : Nat) (text : List Char)
  /-- An opening bracket that starts no tag, with the backslashes before it. -/
  | bracket (slashes : Nat)
  deriving DecidableEq, Repr

def startsTag (c : Char) : Bool := ('a' ≤ c && c ≤ 'z') || c == '#' || c == '/' || c == '@'

/-- A tag is closed before the next opening bracket.  Given what follows its own, this is the text
of the tag and what follows it. -/
def tag? : List Char → Option (List Char × List Char)
  | [] => none
  | first :: rest =>
    let others := rest.takeWhile fun c => c != '[' && c != ']'
    match rest.drop others.length with
    | ']' :: after => if startsTag first then some (first :: others, after) else none
    | _ => none

theorem tag?_shorter {cs text after : List Char} (h : tag? cs = some (text, after)) :
    after.length < cs.length := by
  cases cs with
  | nil => simp [tag?] at h
  | cons first rest =>
    simp only [tag?] at h
    split at h
    · next found =>
      split at h
      · simp only [Option.some.injEq, Prod.mk.injEq] at h
        have := congrArg List.length found
        simp only [List.length_drop, List.length_cons] at this
        simp only [← h.2, List.length_cons]
        omega
      · simp at h
    · simp at h

def slashChars (n : Nat) : List Char := List.replicate n '\\'

def pieces (slashes : Nat) (cs : List Char) : List Piece :=
  match cs with
  | [] => (slashChars slashes).map .char
  | '\\' :: rest => pieces (slashes + 1) rest
  | '[' :: rest =>
    match _h : tag? rest with
    | some (text, after) => .tag slashes text :: pieces 0 after
    | none => .bracket slashes :: pieces 0 rest
  | c :: rest => (slashChars slashes).map .char ++ .char c :: pieces 0 rest
termination_by cs.length
decreasing_by
  all_goals try have := tag?_shorter _h
  all_goals simp only [List.length_cons]
  all_goals omega

namespace Piece

def bracketed (text : List Char) : List Char := '[' :: text ++ [']']

def escaped : Piece → List Char
  | char c => [c]
  | tag slashes text => slashChars (2 * slashes + 1) ++ bracketed text
  | bracket slashes => slashChars slashes ++ ['[']

end Piece

def doubleFinalSlash (cs : List Char) : List Char :=
  match cs.reverse with
  | '\\' :: '\\' :: _ => cs
  | '\\' :: _ => cs ++ ['\\']
  | _ => cs

def escape (s : String) : String :=
  String.ofList (doubleFinalSlash ((pieces 0 s.toList).flatMap Piece.escaped))

def prepend (cs : List Char) : List (List Char) → List (List Char)
  | [] => [cs]
  | first :: rest => (cs ++ first) :: rest

/-- The stretches of text that pieces show, cut at the tags.  Half of the backslashes before a tag
are shown, and the tag itself if one is left over.  A bracket that starts no tag loses one
backslash. -/
def stretches : List Piece → List (List Char)
  | [] => [[]]
  | .char c :: rest => prepend [c] (stretches rest)
  | .bracket slashes :: rest => prepend (slashChars (slashes - 1) ++ ['[']) (stretches rest)
  | .tag slashes text :: rest =>
    let plain := if slashes % 2 = 0 then [] else Piece.bracketed text
    [] :: slashChars (slashes / 2) :: plain :: stretches rest

def shown (cs : List Char) : List Char := (stretches (pieces 0 cs)).flatMap withEmoji

end SchemaArtifacts.Console
