import PerArity.Text.Blank
import PerArity.Text.Decimal
import PerArity.Text.DecimalDigit

/-!
# Reading integers

A numeral is an optional sign directly before decimal digits of any script, where single underscores
may stand between digits, and white space may surround the whole. Leading zeros are allowed and
count towards the limit on the number of digits.

## Numerals that look like options

An argument that begins with a minus sign is taken for an operand when it is a negative number; that
test is laxer than reading (it allows a fraction) and stricter (it allows neither underscores nor
white space, apart from one line break at the end).
-/

namespace PerArity.Text

/-- White space around a numeral. The information separators U+001C to U+001F are blank in a text
but not here. -/
def isNumeralBlank (c : Char) : Bool := isBlank c && !(CharRange.mk 0x1C 0x1F).contains c

/-- The digits that follow a first one, each after at most one underscore. -/
def moreDigits? : List Char → Option (List Nat)
  | [] => some []
  | '_' :: c :: rest => do
    let d ← digitValue? c
    return d :: (← moreDigits? rest)
  | c :: rest => do
    let d ← digitValue? c
    return d :: (← moreDigits? rest)

/-- The values of the digits of an unsigned numeral, the most significant first. -/
def digits? : List Char → Option (List Nat)
  | [] => none
  | c :: rest => do
    let d ← digitValue? c
    return d :: (← moreDigits? rest)

/-- The number with the given decimal digits. -/
def ofDigits (ds : List Nat) : Nat := ds.foldl (fun n d ↦ 10 * n + d) 0

/-- The value of an unsigned numeral that keeps to the digit limit. -/
def natOfChars? (s : List Char) : Option Nat := do
  let ds ← digits? s
  if ds.length ≤ maxDigits then some (ofDigits ds) else none

/-- The value of a signed numeral. -/
def intOfChars? : List Char → Option Int
  | '-' :: rest => (natOfChars? rest).map fun n ↦ -(n : Int)
  | '+' :: rest => (natOfChars? rest).map fun n ↦ (n : Int)
  | s => (natOfChars? s).map fun n ↦ (n : Int)

/-- The value of a numeral, which white space may surround. -/
def readInt? (s : String) : Option Int :=
  intOfChars? (dropTrailing isNumeralBlank (s.toList.dropWhile isNumeralBlank))

/-- Whether the text consists of one or more decimal digits. -/
def isDigits (s : List Char) : Bool := !s.isEmpty && s.all isDecimal

/-- Whether the text is digits, or a point followed by digits with or without digits before it. -/
def isMagnitude (s : List Char) : Bool :=
  match s.dropWhile isDecimal with
  | [] => !s.isEmpty
  | '.' :: fraction => isDigits fraction
  | _ => false

/-- A list without one line break at its end. -/
def dropLineBreak (s : List Char) : List Char :=
  if s.getLast? = some '\n' then s.dropLast else s

/-- Whether an argument is a negative number. -/
def isNegativeNumber : List Char → Bool
  | '-' :: rest => isMagnitude (dropLineBreak rest)
  | _ => false

end PerArity.Text
