import SchemaArtifacts.Escape.Delimited

/-!
# Records

A record is a line of cells, each in double quotes, with commas between them.  A quote inside a
cell is written twice, so a cell can hold any text.
-/

namespace SchemaArtifacts.Csv

open Escape

def cellChars (cs : List Char) : List Char := delimitedChars '"' cs

def cell (s : String) : String := String.ofList (cellChars s.toList)

def record (ending : String) (cells : List String) : String :=
  String.intercalate "," (cells.map cell) ++ ending

def write (ending : String) (records : List (List String)) : String :=
  String.join (records.map (record ending))

end SchemaArtifacts.Csv
