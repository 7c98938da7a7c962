import PerArity.Template

/-!
# Extended placeholders of texts and integers

The operations of values that an extended placeholder can make use of: the character at an index of
a text, the three conversions, and the layout with a fill character, an alignment, a sign, a width,
a precision and a type.

Texts are laid out in full. Integers are laid out in decimal without grouping; other bases,
fractions and grouping are refused, and so are attributes, which lead to functions and types rather
than to texts.
-/

namespace PerArity

namespace Template

open Text (quoted decimal?)

/-! ## Specifications -/

/-- A layout. -/
structure Layout where
  /-- What fills the width up. -/
  fillChar : Char := ' '
  /-- Where the value stands in the width. -/
  align : Option Char := none
  /-- How signs are shown. -/
  sign : Option Char := none
  /-- Whether a negative zero loses its sign. -/
  noNegativeZero : Bool := false
  /-- Whether another form is asked for. -/
  alternate : Bool := false
  /-- Whether the width is filled up with zeros. -/
  zero : Bool := false
  /-- The least number of characters. -/
  width : Nat := 0
  /-- What separates groups of digits. -/
  grouping : Option Char := none
  /-- The greatest number of characters. -/
  precision : Option Nat := none
  /-- The form in which the value is shown. -/
  type : Char := 's'

/-- A failure because of a wrong value. -/
def valueFault (message : String) : Fault := .unshowable "ValueError" message

/-- A failure because of an operation that is not known here. -/
def unknownFault (what : String) : Fault := .unshowable "NotImplementedError" what

/-- The digits in front of a text as a number, if there are any, and what follows them. -/
def takeNumber (s : List Char) : Except Fault (Option Nat × List Char) :=
  let digits := s.takeWhile Text.isDecimal
  match readPosition 0 digits with
  | .error fault => .error fault
  | .ok n => .ok (if digits = [] then none else n, s.drop digits.length)

/-- Takes a character off the front of a text if it is one of those given. -/
def takeOneOf (choices : List Char) : List Char → Option Char × List Char
  | c :: rest => if c ∈ choices then (some c, rest) else (none, c :: rest)
  | [] => (none, [])

/-- The alignments. -/
def alignments : List Char := ['<', '>', '=', '^']

/-- Takes a fill character and an alignment off the front of a specification. -/
def takeAlignment : List Char → Layout × List Char
  | c :: a :: rest =>
    if a ∈ alignments then ({ fillChar := c, align := some a }, rest)
    else if c ∈ alignments then ({ align := some c }, a :: rest)
    else ({}, c :: a :: rest)
  | [a] => if a ∈ alignments then ({ align := some a }, []) else ({}, [a])
  | [] => ({}, [])

/-- Takes the separator of groups off the front of a specification. -/
def takeGrouping (s : List Char) : Except Fault (Option Char × List Char) :=
  let both := valueFault "Cannot specify both ',' and '_'."
  match s with
  | ',' :: '_' :: _ => .error both
  | ',' :: rest => .ok (some ',', rest)
  | '_' :: ',' :: _ => .error both
  | '_' :: rest => .ok (some '_', rest)
  | _ => .ok (none, s)

/-- Takes a precision off the front of a specification. -/
def takePrecision : List Char → Except Fault (Option Nat × List Char)
  | '.' :: rest => do
    match ← takeNumber rest with
    | (none, _) => .error (valueFault "Format specifier missing precision")
    | found => .ok found
  | s => .ok (none, s)

/-- A character in a wording: as it is between the blank and a bound, and otherwise by its code. -/
def shownBelow (bound : Nat) (c : Char) : String :=
  if 32 < c.toNat ∧ c.toNat < bound then String.singleton c
  else "\\x" ++ String.ofList (Nat.toDigits 16 c.toNat)

/-- Whether digits can be grouped by a separator in a form. -/
def allowsGrouping (separator type : Char) : Bool :=
  type ∈ ['d', 'e', 'f', 'g', 'E', 'G', '%', 'F'] ||
    separator = '_' && type ∈ ['b', 'o', 'x', 'X']

/-- Refuses a separator in a form without groups of digits. -/
def checkGrouping (grouping : Option Char) (type : Char) : Except Fault Unit :=
  match grouping with
  | some c =>
    if allowsGrouping c type then .ok ()
    else .error (valueFault s!"Cannot specify '{c}' with '{shownBelow 128 type}'.")
  | none => .ok ()

/-- Reads a specification for a value of the type with the given name, whose usual form is given. -/
def Layout.ofSpec (typeName : String) (usual : Char) (spec : String) : Except Fault Layout := do
  let (layout, s) := takeAlignment spec.toList
  let filled := 2 ≤ spec.length - s.length
  let (sign, s) := takeOneOf [' ', '+', '-'] s
  let (z, s) := takeOneOf ['z'] s
  let (alternate, s) := takeOneOf ['#'] s
  let (zero, s) := if filled then (none, s) else takeOneOf ['0'] s
  let (width, s) ← takeNumber s
  let (grouping, s) ← takeGrouping s
  let (precision, s) ← takePrecision s
  match s with
  | _ :: _ :: _ =>
    .error (valueFault s!"Invalid format specifier '{spec}' for object of type '{typeName}'")
  | _ =>
    let type := s.headD usual
    checkGrouping grouping type
    return { layout with
      fillChar := if zero.isSome then '0' else layout.fillChar
      sign := sign
      noNegativeZero := z.isSome
      alternate := alternate.isSome
      zero := zero.isSome
      width := width.getD 0
      grouping := grouping
      precision := precision
      type := type }

/-! ## Laying out -/

/-- The failure to show a value in an unknown form. -/
def unknownType (typeName : String) (c : Char) : Fault :=
  valueFault s!"Unknown format code '{shownBelow 128 c}' for object of type '{typeName}'"

/-- A text filled up to a width on the side that an alignment leaves free. -/
def pad (fillChar : Char) (align : Char) (width : Nat) (s : List Char) : List Char :=
  let missing := width - s.length
  let before := if align = '>' then missing else if align = '^' then missing / 2 else 0
  List.replicate before fillChar ++ s ++ List.replicate (missing - before) fillChar

/-- Lays out a text. -/
def layOutText (s : String) (l : Layout) : Except Fault String :=
  if l.type ≠ 's' then .error (unknownType "str" l.type)
  else if l.sign = some ' ' then
    .error (valueFault "Space not allowed in string format specifier")
  else if l.sign.isSome then .error (valueFault "Sign not allowed in string format specifier")
  else if l.noNegativeZero then
    .error (valueFault "Negative zero coercion (z) not allowed in string format specifier")
  else if l.alternate then
    .error (valueFault "Alternate form (#) not allowed in string format specifier")
  else if l.align = some '=' then
    .error (valueFault "'=' alignment not allowed in string format specifier")
  else
    let shown := match l.precision with
      | some n => s.toList.take n
      | none => s.toList
    .ok (String.ofList (pad l.fillChar (l.align.getD '<') l.width shown))

/-- Lays out an integer in decimal. -/
def layOutNumber (n : Int) (l : Layout) : Except Fault String :=
  if l.grouping.isSome then .error (unknownFault "grouping of digits")
  else if l.type ∈ ['b', 'c', 'o', 'x', 'X', 'n', 'e', 'E', 'f', 'F', 'g', 'G', '%'] then
    .error (unknownFault "other forms of numbers than decimal")
  else if l.type ≠ 'd' then .error (unknownType "int" l.type)
  else if l.precision.isSome then
    .error (valueFault "Precision not allowed in integer format specifier")
  else if l.noNegativeZero then
    .error (valueFault "Negative zero coercion (z) not allowed in integer format specifier")
  else
    match decimal? n.natAbs with
    | none => .error .tooManyDigits
    | some digits =>
      let sign : List Char :=
        if n < 0 then ['-'] else if l.sign = some '+' then ['+']
        else if l.sign = some ' ' then [' '] else []
      let align := l.align.getD (if l.zero then '=' else '>')
      if align = '=' then
        .ok (String.ofList (sign ++ pad l.fillChar '>' (l.width - sign.length) digits.toList))
      else .ok (String.ofList (pad l.fillChar align l.width (sign ++ digits.toList)))

/-- The name of the type of a value. -/
def Value.typeName : Value → String
  | text _ => "str"
  | number _ => "int"

/-- The form in which a value is usually shown. -/
def Value.usualForm : Value → Char
  | text _ => 's'
  | number _ => 'd'

/-- Lays out a value. Without a specification it is shown as it is. -/
def Value.layOut (v : Value) (spec : String) : Except Fault String :=
  if spec = "" then v.shown
  else do
    let l ← Layout.ofSpec v.typeName v.usualForm spec
    match v with
    | text s => layOutText s l
    | number n => layOutNumber n l

/-! ## Parts and conversions -/

/-- The part of a value at an index. -/
def Value.part (v : Value) (index : List Char) : Except Fault Value :=
  match v, readPosition 0 index with
  | _, .error fault => .error fault
  | number _, _ => .error (.unshowable "TypeError" "'int' object is not subscriptable")
  | text _, .ok none =>
    .error (.unshowable "TypeError" "string indices must be integers, not 'str'")
  | text s, .ok (some n) =>
    match s.toList[n]? with
    | some c => .ok (.text (String.singleton c))
    | none => .error (.unshowable "IndexError" "string index out of range")

/-- Follows a path from a value, in at most as many steps as are given. -/
def Value.follow : Nat → Value → List Char → Except Fault Value
  | 0, v, _ => .ok v
  | _ + 1, v, [] => .ok v
  | steps + 1, v, '[' :: path =>
    let index := path.takeWhile (· ≠ ']')
    if index = [] then .error (valueFault "Empty attribute in format string")
    else do follow steps (← v.part index) (path.drop (index.length + 1))
  | _ + 1, v, '.' :: path =>
    let name := path.takeWhile fun c ↦ c ≠ '.' ∧ c ≠ '['
    if name = [] then .error (valueFault "Empty attribute in format string")
    else .error (.unshowable "AttributeError"
      s!"'{v.typeName}' object has no attribute '{String.ofList name}'")
  | _ + 1, _, _ :: _ =>
    .error (valueFault "Only '.' or '[' may follow ']' in format field specifier")

/-- A quoted text with everything outside of ASCII escaped. -/
def asciiOnly (s : String) : String :=
  String.ofList (s.toList.flatMap fun c ↦ if c.toNat < 128 then [c] else Text.codeEscape c)

/-- Applies a conversion. -/
def Value.convert (v : Value) : Option Char → Except Fault Value
  | none => .ok v
  | some 's' => v.shown.map .text
  | some 'r' =>
    match v with
    | text s => .ok (.text (quoted s))
    | number _ => v.shown.map .text
  | some 'a' =>
    match v with
    | text s => .ok (.text (asciiOnly (quoted s)))
    | number _ => v.shown.map .text
  | some c => .error (valueFault s!"Unknown conversion specifier {shownBelow 127 c}")

/-- The operations of texts and integers. -/
abbrev Formatter.standard : Formatter where
  Object := Value
  access v path conversion := do (← v.follow path.length path.toList).convert conversion
  layOut := Value.layOut

end Template

end PerArity
