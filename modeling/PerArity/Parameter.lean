import PerArity.Error
import PerArity.IndexRange
import PerArity.Text.LowerCase

/-!
# Parameter names

The type parameters of a declaration are the letters A to Z in order of their index, so there are
twenty-six of them and every other index is an error. The names of a range are made in ascending
order; the first index without a letter is the one that is reported, and an empty range has no names
to fail on.
-/

namespace PerArity.Parameter

/-- The number of parameters that have a name. -/
def capacity : Nat := 26

/-- The letter of a parameter. -/
def letter (index : Fin capacity) : Char := Char.ofNat (65 + index)

/-- The name of the parameter at an index. -/
def name (index : Int) : Except Error String :=
  if h : 0 ≤ index ∧ index < capacity then
    .ok (String.singleton (letter ⟨index.toNat, by omega⟩))
  else .error (.about index (.unsupportedParameter index))

/-- The name of an example value for the parameter at an index. -/
def valueName (index : Int) : Except Error String := (name index).map Text.lower

/-- The names of the parameters in a range. -/
def names (range : IndexRange) : Except Error (List String) := range.traverse name

/-- The names of the example values for a range. -/
def valueNames (range : IndexRange) : Except Error (List String) := range.traverse valueName

/-- Items separated by a comma and a blank. -/
def commaSeparated (items : List String) : String := ", ".intercalate items

/-- The names of the parameters in a range as one text, which is empty for an empty range. -/
def nameList (range : IndexRange) : Except Error String := (names range).map commaSeparated

end PerArity.Parameter
