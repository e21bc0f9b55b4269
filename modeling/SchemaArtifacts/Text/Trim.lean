import SchemaArtifacts.Text.CharSet

/-!
# Trimming

Blank characters are removed from the ends of a text, never from its middle.
-/

namespace SchemaArtifacts.Text

def trimStartChars (cs : List Char) : List Char := cs.dropWhile isBlank

def trimEndChars (cs : List Char) : List Char := (cs.reverse.dropWhile isBlank).reverse

def trimChars (cs : List Char) : List Char := trimEndChars (trimStartChars cs)

def trim (s : String) : String := String.ofList (trimChars s.toList)

def trimEnd (s : String) : String := String.ofList (trimEndChars s.toList)

def isBlankText (s : String) : Bool := s.toList.all isBlank

@[simp] theorem toList_trim (s : String) : (trim s).toList = trimChars s.toList := by
  simp [trim]

@[simp] theorem toList_trimEnd (s : String) : (trimEnd s).toList = trimEndChars s.toList := by
  simp [trimEnd]

theorem trimEndChars_append_blank (cs : List Char) {c : Char} (h : isBlank c = true) :
    trimEndChars (cs ++ [c]) = trimEndChars cs := by
  simp [trimEndChars, h]

end SchemaArtifacts.Text
