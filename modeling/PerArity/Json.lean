import PerArity.Text.Decimal
import PerArity.Text.Hex
import PerArity.Text.Raw

/-!
# JSON values and their indented text

The values needed here are texts, integers, lists and objects. An object is a list of members,
because the order of the members is part of what is written.

## The layout

A list or object that is not empty opens a line for each of its elements, indented by `width` blanks
for every level; the elements are separated by commas at line ends. Width zero still breaks the
lines. Inside strings everything but printable ASCII is escaped, so the text is ASCII and its line
breaks all belong to the layout; a character beyond the sixteen-bit range is written as the two
escapes of its surrogate pair, and a surrogate by itself as its own escape.

The indentation that is asked for is an integer, which counts as zero when it is negative but has to
fit sixty-four bits with a sign; one that does not is refused, in either direction. A value with an
integer that has too many digits is refused as well.
-/

namespace PerArity

/-- A JSON value without fractions, truth values and null. -/
inductive Json where
  /-- An integer. -/
  | int (n : Int)
  /-- A string. -/
  | str (s : RawText)
  /-- A list. -/
  | arr (items : List Json)
  /-- An object, its members in the order in which they are written. -/
  | obj (members : List (String × Json))

namespace Json

/-! ## Strings -/

/-- The UTF-16 units of a character. -/
def units (c : Char) : List Nat :=
  let n := c.toNat
  if n < 0x10000 then [n] else [0xD800 + (n - 0x10000) / 0x400, 0xDC00 + (n - 0x10000) % 0x400]

/-- The escape of one UTF-16 unit. -/
def unitEscape (n : Nat) : List Char := '\\' :: 'u' :: Text.hexDigits 4 n

/-- Printable ASCII, the only characters that a string shows as they are. -/
def isPlain (c : Char) : Bool := ' ' ≤ c && c ≤ '~'

/-- One character inside a string. -/
def escapeChar (c : Char) : List Char :=
  if c = '\x22' then ['\\', '\x22']
  else if c = '\\' then ['\\', '\\']
  else if c = '\n' then ['\\', 'n']
  else if c = '\r' then ['\\', 'r']
  else if c = '\t' then ['\\', 't']
  else if c = '\x08' then ['\\', 'b']
  else if c = '\x0c' then ['\\', 'f']
  else if isPlain c then [c]
  else (units c).flatMap unitEscape

/-- One code point inside a string. -/
def escapePoint : CodePoint → List Char
  | .char c => escapeChar c
  | .surrogate n => unitEscape (0xD800 + n)

/-- A string between its quotes. -/
def strChars (s : RawText) : List Char := '\x22' :: s.flatMap escapePoint ++ ['\x22']

/-! ## Values -/

/-- A line break and the indentation of the next line. -/
def newline (width depth : Nat) : List Char := '\n' :: List.replicate (width * depth) ' '

mutual

/-- The characters of a value that stands `depth` levels deep. -/
def chars (width depth : Nat) : Json → List Char
  | int n => (toString n).toList
  | str s => strChars s
  | arr [] => ['[', ']']
  | arr (x :: xs) =>
    '[' :: newline width (depth + 1) ++ chars width (depth + 1) x
      ++ moreItems width (depth + 1) xs ++ newline width depth ++ [']']
  | obj [] => ['{', '}']
  | obj ((k, x) :: ms) =>
    '{' :: newline width (depth + 1) ++ strChars k ++ [':', ' '] ++ chars width (depth + 1) x
      ++ moreMembers width (depth + 1) ms ++ newline width depth ++ ['}']

/-- The items of a list after its first one. -/
def moreItems (width depth : Nat) : List Json → List Char
  | [] => []
  | x :: xs => ',' :: newline width depth ++ chars width depth x ++ moreItems width depth xs

/-- The members of an object after its first one. -/
def moreMembers (width depth : Nat) : List (String × Json) → List Char
  | [] => []
  | (k, x) :: ms =>
    ',' :: newline width depth ++ strChars k ++ [':', ' '] ++ chars width depth x
      ++ moreMembers width depth ms

end

/-! ## Refusals -/

/-- Why a value is not written. -/
inductive Failure where
  /-- The indentation is outside the range in which one can be asked for. -/
  | indentOutOfRange
  /-- There is an integer with too many digits in it. -/
  | tooManyDigits
  deriving DecidableEq

/-- The wording of a refusal. -/
def Failure.message : Failure → String
  | indentOutOfRange => "cannot fit 'int' into an index-sized integer"
  | tooManyDigits => Text.digitLimitMessage

/-- The least indentation that can be asked for. -/
def minIndent : Int := -9223372036854775808

/-- The greatest indentation that can be asked for. -/
def maxIndent : Int := 9223372036854775807

/-- The blanks of one level for an indentation, which are none below zero. -/
def widthOfIndent (indent : Int) : Except Failure Nat :=
  if minIndent ≤ indent ∧ indent ≤ maxIndent then .ok indent.toNat else .error .indentOutOfRange

mutual

/-- The integers in a value. -/
def ints : Json → List Int
  | int n => [n]
  | str _ => []
  | arr items => intsOfItems items
  | obj members => intsOfMembers members

/-- The integers in the items of a list. -/
def intsOfItems : List Json → List Int
  | [] => []
  | x :: xs => ints x ++ intsOfItems xs

/-- The integers in the members of an object. -/
def intsOfMembers : List (String × Json) → List Int
  | [] => []
  | (_, x) :: ms => ints x ++ intsOfMembers ms

end

/-- No integer in the value has too many digits. -/
def IsPrintable (v : Json) : Prop := ∀ n ∈ v.ints, Text.IsPrintable n

instance (v : Json) : Decidable v.IsPrintable := inferInstanceAs (Decidable (∀ n ∈ v.ints, _))

/-! ## Texts -/

/-- The text of a value, indented by `width` blanks a level. -/
def pretty (width : Nat) (v : Json) : Except Failure String :=
  if v.IsPrintable then .ok (String.ofList (v.chars width 0)) else .error .tooManyDigits

end Json

end PerArity
