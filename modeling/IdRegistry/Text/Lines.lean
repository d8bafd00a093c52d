namespace IdRegistry.Text

/-- The parts of a text between separators. There is one more than there are separators. -/
def splitAt (separator : Char) : List Char → List (List Char)
  | [] => [[]]
  | c :: rest =>
      if c = separator then [] :: splitAt separator rest
      else
        match splitAt separator rest with
        | [] => [[c]]
        | first :: later => (c :: first) :: later

def dropReturn (line : List Char) : List Char :=
  if line.getLast? = some '\r' then line.dropLast else line

/-- The lines of which the parts between line breaks are given. The last part ends with the text. -/
def linesOfParts : List (List Char) → List (List Char)
  | [] => []
  | [last] => if last.isEmpty then [] else [last]
  | line :: rest => dropReturn line :: linesOfParts rest

def lines (text : List Char) : List (List Char) := linesOfParts (splitAt '\n' text)

end IdRegistry.Text
