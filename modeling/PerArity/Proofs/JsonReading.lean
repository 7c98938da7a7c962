import Mathlib.Data.List.Chain
import PerArity.Json

/-!
# Reading JSON

A reader of JSON texts, independent of how they are printed. It covers what the values here are made
of: strings with all escapes, integers, lists and objects, with white space wherever the format
allows it. Fractions, truth values and null have no value here and are refused, as is everything
that the format does not allow: leading zeros, control characters in strings, unknown escapes,
commas before a closing bracket, and anything after the value.

Two escapes that are the halves of a surrogate pair are read as one character; half a pair by itself
is read as the surrogate. So a text in which the two halves stand next to each other as surrogates
cannot be told from one with the character. A text is joined if this is not so anywhere in it, and
then nothing is lost.

## Two machines

The characters go through one machine that makes tokens of them, and the tokens through another one
that makes a value of them, with the open lists and objects on a stack. Both take one step for each
input, so that a text can be read piece by piece, and what has been read of it is a state. A string
is collected as UTF-16 units, because an escape stands for a unit and not for a character.
-/

namespace PerArity.Json

/-! ## Units -/

/-- Whether a unit is the first one of a surrogate pair. -/
def isHigh (n : Nat) : Bool := 0xD800 ≤ n && n < 0xDC00

/-- Whether a unit is the second one of a surrogate pair. -/
def isLow (n : Nat) : Bool := 0xDC00 ≤ n && n < 0xE000

/-- The character of a surrogate pair. -/
def ofPair (high low : Nat) : Char :=
  Char.ofNat (0x10000 + (high - 0xD800) * 0x400 + (low - 0xDC00))

/-- A unit that is no half of a pair as a character, and any other one as a surrogate. -/
def ofUnit (n : Nat) : CodePoint :=
  if isHigh n || isLow n then .surrogate (Fin.ofNat 0x800 (n - 0xD800)) else .char (Char.ofNat n)

/-- The text of UTF-16 units, in which the two halves of a pair are joined. -/
def ofUnits : List Nat → RawText
  | [] => []
  | [n] => [ofUnit n]
  | n :: low :: rest =>
    if isHigh n && isLow low then .char (ofPair n low) :: ofUnits rest
    else ofUnit n :: ofUnits (low :: rest)

/-! ## Tokens -/

/-- What a text is made of. -/
inductive Token where
  /-- The beginning of a list. -/
  | beginList
  /-- The end of a list. -/
  | endList
  /-- The beginning of an object. -/
  | beginObject
  /-- The end of an object. -/
  | endObject
  /-- What separates items and members. -/
  | comma
  /-- What separates a key from its value. -/
  | colon
  /-- A string. -/
  | string (s : RawText)
  /-- An integer. -/
  | int (n : Int)
  deriving DecidableEq

/-- Where the reading of characters is. What was collected is kept in reverse. -/
inductive Mode where
  /-- Between two tokens. -/
  | between
  /-- In a number, after its sign and these digits. -/
  | number (negative : Bool) (digits : List Char)
  /-- In a string, after these units. -/
  | string (units : List Nat)
  /-- In a string, after a backslash. -/
  | escape (units : List Nat)
  /-- In the code of a unit, after digits with this value, with more digits to come after the next
  one. -/
  | code (units : List Nat) (value more : Nat)

/-- The value of a hexadecimal digit. -/
def hexValue? (c : Char) : Option Nat :=
  if c.isDigit then some (c.toNat - '0'.toNat)
  else if 'a' ≤ c ∧ c ≤ 'f' then some (c.toNat - 'a'.toNat + 10)
  else if 'A' ≤ c ∧ c ≤ 'F' then some (c.toNat - 'A'.toNat + 10)
  else none

/-- The unit that a backslash and a letter stand for. -/
def shortEscape? : Char → Option Nat
  | '\x22' => some 0x22
  | '\\' => some 0x5C
  | '/' => some 0x2F
  | 'b' => some 0x08
  | 'f' => some 0x0C
  | 'n' => some 0x0A
  | 'r' => some 0x0D
  | 't' => some 0x09
  | _ => none

/-- The token of a number: it has a digit, and the first one is zero only if there is no other. -/
def numberToken? (negative : Bool) (digits : List Char) : Option Token :=
  if digits = [] ∨ (digits.head? = some '0' ∧ digits ≠ ['0']) then none
  else
    let n : Int := Nat.ofDigitChars 10 digits 0
    some (.int (if negative then -n else n))

namespace Mode

/-- Reads a character between two tokens. -/
def start (c : Char) : Option (List Token × Mode) :=
  if c.isDigit then some ([], number false [c])
  else
    match c with
    | ' ' | '\t' | '\n' | '\r' => some ([], between)
    | '[' => some ([.beginList], between)
    | ']' => some ([.endList], between)
    | '{' => some ([.beginObject], between)
    | '}' => some ([.endObject], between)
    | ',' => some ([.comma], between)
    | ':' => some ([.colon], between)
    | '-' => some ([], number true [])
    | '\x22' => some ([], string [])
    | _ => none

/-- Reads a character, and gives the tokens that end with it or before it. -/
def step : Mode → Char → Option (List Token × Mode)
  | between, c => start c
  | number negative digits, c =>
    if c.isDigit then some ([], number negative (c :: digits))
    else
      match numberToken? negative digits.reverse, start c with
      | some token, some (found, m) => some (token :: found, m)
      | _, _ => none
  | string collected, c =>
    if c = '\x22' then some ([.string (ofUnits collected.reverse)], between)
    else if c = '\\' then some ([], escape collected)
    else if c < ' ' then none
    else some ([], string ((units c).reverse ++ collected))
  | escape collected, c =>
    if c = 'u' then some ([], code collected 0 3)
    else (shortEscape? c).map fun n ↦ ([], string (n :: collected))
  | code collected value more, c =>
    (hexValue? c).map fun digit ↦
      match more with
      | 0 => ([], string ((16 * value + digit) :: collected))
      | more + 1 => ([], code collected (16 * value + digit) more)

/-- The tokens that end where the text ends. -/
def finish : Mode → Option (List Token)
  | between => some []
  | number negative digits => (numberToken? negative digits.reverse).map ([·])
  | _ => none

end Mode

/-- The tokens of the characters that are still to be read. -/
def lexFrom : Mode → List Char → Option (List Token)
  | m, [] => m.finish
  | m, c :: cs => (m.step c).bind fun (found, m') ↦ (lexFrom m' cs).map (found ++ ·)

/-! ## Values -/

/-- A list or an object that is not complete, with what it holds so far in reverse. -/
inductive Frame where
  /-- A list. -/
  | list (items : List Json)
  /-- An object, and the key of the next value. -/
  | object (members : List (String × Json)) (key : String)

/-- What the reading of tokens has come to. -/
inductive Phase where
  /-- A value comes next. -/
  | value
  /-- A list was begun. -/
  | item
  /-- An object was begun. -/
  | member
  /-- The key of another member comes next. -/
  | key (members : List (String × Json))
  /-- A key was read. -/
  | colon (members : List (String × Json)) (key : String)
  /-- A value is complete. -/
  | complete (v : Json)

/-- Reads the first token of a value below some frames. -/
def beginValue (frames : List Frame) : Token → Option (Phase × List Frame)
  | .int n => some (.complete (.int n), frames)
  | .string s => some (.complete (.str s), frames)
  | .beginList => some (.item, frames)
  | .beginObject => some (.member, frames)
  | _ => none

/-- The key that a string is, if it has no surrogates. -/
def key? (s : RawText) : Option String := s.encode.toOption

/-- Reads a token. -/
def readToken : Phase × List Frame → Token → Option (Phase × List Frame)
  | (.value, frames), t => beginValue frames t
  | (.item, frames), .endList => some (.complete (.arr []), frames)
  | (.item, frames), t => beginValue (.list [] :: frames) t
  | (.member, frames), .endObject => some (.complete (.obj []), frames)
  | (.member, frames), .string s => (key? s).map fun k ↦ (.colon [] k, frames)
  | (.key members, frames), .string s => (key? s).map fun k ↦ (.colon members k, frames)
  | (.colon members k, frames), .colon => some (.value, .object members k :: frames)
  | (.complete v, .list items :: frames), .comma => some (.value, .list (v :: items) :: frames)
  | (.complete v, .list items :: frames), .endList =>
    some (.complete (.arr (v :: items).reverse), frames)
  | (.complete v, .object members k :: frames), .comma => some (.key ((k, v) :: members), frames)
  | (.complete v, .object members k :: frames), .endObject =>
    some (.complete (.obj ((k, v) :: members).reverse), frames)
  | _, _ => none

/-- The value of some tokens, if they are exactly one value. -/
def ofTokens? (tokens : List Token) : Option Json :=
  match tokens.foldlM readToken (.value, []) with
  | some (.complete v, []) => some v
  | _ => none

/-- The value of a text, if it is exactly one value. -/
def ofText? (text : String) : Option Json := (lexFrom .between text.toList).bind ofTokens?

/-! ## Joined texts -/

/-- Whether a code point is a surrogate that is the first half of a pair. -/
def isFirstHalf : CodePoint → Bool
  | .char _ => false
  | .surrogate n => n.val < 0x400

/-- Whether a code point is a surrogate that is the second half of a pair. -/
def isSecondHalf : CodePoint → Bool
  | .char _ => false
  | .surrogate n => 0x400 ≤ n.val

/-- No two surrogates that make a pair stand next to each other. -/
def IsJoinedText (s : RawText) : Prop :=
  s.IsChain fun a b ↦ ¬(isFirstHalf a = true ∧ isSecondHalf b = true)

instance (s : RawText) : Decidable (IsJoinedText s) := inferInstanceAs (Decidable (s.IsChain _))

theorem isJoinedText_ofString (s : String) : IsJoinedText s := by
  rw [IsJoinedText, RawText.ofString, List.isChain_map]
  refine List.Pairwise.isChain (List.pairwise_of_forall fun a b h ↦ ?_)
  cases h.1

mutual

/-- The texts in a value. -/
def texts : Json → List RawText
  | int _ => []
  | str s => [s]
  | arr items => textsOfItems items
  | obj members => textsOfMembers members

/-- The texts in the items of a list. -/
def textsOfItems : List Json → List RawText
  | [] => []
  | x :: xs => texts x ++ textsOfItems xs

/-- The texts in the members of an object. -/
def textsOfMembers : List (String × Json) → List RawText
  | [] => []
  | (_, x) :: ms => texts x ++ textsOfMembers ms

end

/-- All texts in the value are joined. -/
def IsJoined (v : Json) : Prop := ∀ s ∈ v.texts, IsJoinedText s

/-! ## Places in a text -/

/-- Where a character stands with respect to the strings of a text. -/
inductive Place where
  /-- Outside of all strings. -/
  | outside
  /-- In a string. -/
  | inside
  /-- In a string, right after a backslash. -/
  | escaped
  deriving DecidableEq

/-- The place after a character. -/
def Place.next : Place → Char → Place
  | outside, c => if c = '\x22' then inside else outside
  | inside, c => if c = '\x22' then outside else if c = '\\' then escaped else inside
  | escaped, _ => inside

end PerArity.Json
