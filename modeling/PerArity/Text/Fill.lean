/-!
# Filling lines

Words are set one after the other, and a new line begins where the next word would not fit. A word
that is too long for a line has one to itself.
-/

namespace PerArity.Text

/-- The lines that continue from a line that has been begun. -/
def fillFrom (width : Nat) (line : String) : List String → List String
  | [] => [line]
  | word :: words =>
    if line.length + 1 + word.length ≤ width then fillFrom width (line ++ " " ++ word) words
    else line :: fillFrom width word words

/-- The lines of a width that words fill. -/
def fill (width : Nat) : List String → List String
  | [] => []
  | word :: words => fillFrom width word words

/-- The words of a text, which single blanks separate. -/
def words (s : String) : List String := (s.toList.splitOn ' ').map String.ofList

/-- A number of blanks. -/
def blanks (n : Nat) : String := String.ofList (List.replicate n ' ')

end PerArity.Text
