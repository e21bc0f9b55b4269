import SchemaArtifacts.Console.EmojiNames
import SchemaArtifacts.Keyed
import SchemaArtifacts.Text.CharSet
import SchemaArtifacts.Text.LetterCase

/-!
# Emoji codes

A name between two colons stands for an emoji.  The name may end in the form that the emoji should
take.  A name that is not known stays with its colons, and its second colon starts no other name.
-/

namespace SchemaArtifacts.Console

open Text

/-- The entries of a table: words with a name before an equals sign and an emoji after it. -/
def tableEntries (table : String) : Keyed String :=
  ((table.toList.splitOnP isBlank).filter (!·.isEmpty)).map fun word =>
    let name := word.takeWhile (· != '=')
    (String.ofList name, String.ofList (word.drop (name.length + 1)))

def skinTones : List (String × Char) :=
  [("_light_skin_tone", '🏻'), ("_medium-light_skin_tone", '🏼'), ("_medium_skin_tone", '🏽'),
   ("_medium-dark_skin_tone", '🏾'), ("_dark_skin_tone", '🏿')]

/-- An emoji with a tone: the modifier stands after the first character, in place of a selector. -/
def toned (modifier : Char) (emoji : String) : String :=
  match emoji.toList with
  | [] => ""
  | c :: '\ufe0f' :: rest | c :: rest => String.ofList (c :: modifier :: rest)

def withTones (entry : String × String) : Keyed String :=
  entry :: skinTones.map fun (suffix, modifier) => (entry.1 ++ suffix, toned modifier entry.2)

def emojiTable : Keyed String :=
  tableEntries plainEmoji ++ (tableEntries emojiWithTones).flatMap withTones

/-- The endings of a code that ask for a form, each with the selector of that form. -/
def emojiForms : List (String × Char) := [("-emoji", '\ufe0f'), ("-text", '\ufe0e')]

/-- A code without the form that it asks for, and the selector of the form. -/
def splitForm (code : List Char) : List Char × List Char :=
  match emojiForms.find? fun (ending, _) => ending.toList.isSuffixOf code with
  | some (ending, selector) => (code.take (code.length - ending.length), [selector])
  | none => (code, [])

def emojiOf? (code : List Char) : Option (List Char) :=
  let (name, selector) := splitForm code
  (Keyed.get? emojiTable (lower (String.ofList name))).map fun emoji => emoji.toList ++ selector

/-- The code that ends at the next colon, and what follows it, where no blank comes first. -/
def code? (cs : List Char) : Option (List Char × List Char) :=
  let code := cs.takeWhile fun c => c != ':' && !isBlank c
  match cs.drop code.length with
  | ':' :: rest => some (code, rest)
  | _ => none

theorem code?_shorter {cs code rest : List Char} (h : code? cs = some (code, rest)) :
    rest.length < cs.length := by
  simp only [code?] at h
  split at h
  · next found =>
    have := congrArg List.length found
    simp only [List.length_drop, List.length_cons] at this
    simp only [Option.some.injEq, Prod.mk.injEq] at h
    simp only [← h.2]
    omega
  · simp at h

def withEmoji (cs : List Char) : List Char :=
  match cs with
  | [] => []
  | ':' :: rest =>
    match _h : code? rest with
    | some (code, after) =>
      (emojiOf? code).getD (':' :: code ++ [':']) ++ withEmoji after
    | none => ':' :: withEmoji rest
  | c :: rest => c :: withEmoji rest
termination_by cs.length
decreasing_by
  all_goals try have := code?_shorter _h
  all_goals simp only [List.length_cons]
  all_goals omega

end SchemaArtifacts.Console
