import PerArity.Text.Decimal
import PerArity.Text.DecimalDigit
import PerArity.Text.Quoted

/-!
# Templates

A template is a text in which `{field}` stands for a value and a doubled brace for a single one.
Between the braces more can stand than the name of a field: a path to a part of the value, after an
exclamation mark a conversion, and after a colon a specification of the layout, in which there may
be placeholders again. What such an extended placeholder shows is decided by a `Formatter`, which
knows the values' own operations; everything else about a template is said here.

## From left to right

Reading cuts a text into pieces and goes no further than the first placeholder that cannot be read;
a field name is judged where the placeholder ends. Filling shows one piece after the other, so the
leftmost failure is the one that is reported. Inserted values are never read again.

A template whose placeholders are bare names is plain. Whether it can be filled does not depend on
the values, as long as these can be written at all.

## Numeric names

A field name that is empty or consists of decimal digits refers to a positional value. Templates
have none, so such a field is a fault of its own, and one that is too large to be a position is
another.
-/

namespace PerArity

/-- The named fields that a template may mention. -/
class Template.Field (F : Type) where
  /-- The fields with the names that stand for them. -/
  named : List (String × F)

/-- A text with fields of type `F`. -/
structure Template (F : Type) where
  /-- The text as it is written. -/
  source : String
  deriving DecidableEq

namespace Template

/-! ## Faults -/

/-- What can go wrong with a template. -/
inductive Fault where
  /-- A field that has no value. -/
  | unknownField (name : String)
  /-- A field that is a position. -/
  | positional (index : Nat)
  /-- A field whose digits exceed every position. -/
  | positionTooLarge
  /-- A closing brace by itself. -/
  | loneClose
  /-- An opening brace at the end. -/
  | loneOpen
  /-- A field without its closing brace. -/
  | unclosedField
  /-- An opening brace inside a field name. -/
  | openInName
  /-- An exclamation mark at the end. -/
  | missingConversion
  /-- A conversion of more than one character. -/
  | longConversion
  /-- A specification without its closing brace. -/
  | unclosedSpec
  /-- A placeholder in the specification of one that stands in a specification itself. -/
  | nestedTooDeep
  /-- A number with more digits than are written. -/
  | tooManyDigits
  /-- A value that has no such part or cannot be laid out in this way, with the kind of the failure
  and its wording. -/
  | unshowable (kind message : String)
  deriving DecidableEq

namespace Fault

/-- The wording of a fault. -/
def message : Fault → String
  | unknownField name => Text.quoted name
  | positional index => s!"Replacement index {index} out of range for positional args tuple"
  | positionTooLarge => "Too many decimal digits in format string"
  | loneClose => "Single '\x7d' encountered in format string"
  | loneOpen => "Single '\x7b' encountered in format string"
  | unclosedField => "expected '\x7d' before end of string"
  | openInName => "unexpected '\x7b' in field name"
  | missingConversion => "end of string while looking for conversion specifier"
  | longConversion => "expected ':' after conversion specifier"
  | unclosedSpec => "unmatched '\x7b' in format spec"
  | nestedTooDeep => "Max string recursion exceeded"
  | tooManyDigits => Text.digitLimitMessage
  | unshowable _ message => message

end Fault

/-! ## Values -/

/-- A value that a template shows. -/
inductive Value where
  /-- A text. -/
  | text (s : String)
  /-- An integer. -/
  | number (n : Int)

/-- A value as a bare placeholder shows it. -/
def Value.shown : Value → Except Fault String
  | text s => .ok s
  | number n =>
    match Text.decimal? n with
    | some s => .ok s
    | none => .error .tooManyDigits

/-- The operations of values that only extended placeholders make use of. -/
class Formatter where
  /-- What a path and a conversion can lead to. -/
  Object : Type
  /-- Follows a path from a value and applies a conversion, if there is one. -/
  access : Value → String → Option Char → Except Fault Object
  /-- Lays out an object by a specification. -/
  layOut : Object → String → Except Fault String

variable {F : Type}

/-! ## Field names -/

/-- The greatest position that a numeric field name can express. -/
def maxPosition : Nat := 9223372036854775807

/-- Reads digits after a number `n`, and nothing if another character is met first. -/
def readPosition (n : Nat) : List Char → Except Fault (Option Nat)
  | [] => .ok (some n)
  | c :: rest =>
    match Text.digitValue? c with
    | none => .ok none
    | some d =>
      if 10 * n + d ≤ maxPosition then readPosition (10 * n + d) rest else .error .positionTooLarge

/-- The field that a name stands for. -/
def fieldOfName [Field F] (name : List Char) : Except Fault F :=
  match readPosition 0 name with
  | .error fault => .error fault
  | .ok (some n) => .error (.positional n)
  | .ok none =>
    match (Field.named (F := F)).lookup (String.ofList name) with
    | some f => .ok f
    | none => .error (.unknownField (String.ofList name))

/-! ## Reading -/

/-- The characters of a placeholder before a colon, each part with its last character first. -/
structure Opening where
  /-- The name of the field. -/
  name : List Char
  /-- What follows the name, from the first point or bracket on. -/
  path : List Char
  /-- The conversion. -/
  conversion : Option Char := none

/-- A placeholder that is more than a name. -/
structure Extended (F : Type) where
  /-- The field. -/
  field : F
  /-- The way to a part of its value. -/
  path : String
  /-- The conversion. -/
  conversion : Option Char
  /-- The specification of the layout. -/
  spec : List Char

/-- A part of a template. -/
inductive Piece (F : Type) where
  /-- A character that stands for itself. -/
  | literal (c : Char)
  /-- A place for a value. -/
  | field (f : F)
  /-- A place for a value that is not shown as it is, or what keeps it from being read. -/
  | extended (e : Except Fault (Extended F))
  /-- A place at which reading stops. -/
  | broken (fault : Fault)

/-- Where in a template a reading stands. -/
inductive Scan where
  /-- Outside of all placeholders. -/
  | outside
  /-- In the name of a field, of which the characters so far are given, the last one first. -/
  | name (name : List Char)
  /-- In a path, outside or inside of brackets. -/
  | path (o : Opening) (inBrackets : Bool)
  /-- Behind an exclamation mark. -/
  | conversion (o : Opening)
  /-- Behind a conversion. -/
  | converted (o : Opening)
  /-- In a specification, of which the characters so far are given, the last one first, and the
  number of braces that are still open. -/
  | spec (o : Opening) (spec : List Char) (depth : Nat)

/-- The piece for an extended placeholder that ends. -/
def Opening.close [Field F] (o : Opening) (spec : List Char) : Piece F :=
  .extended ((fieldOfName o.name.reverse).map fun f ↦
    { field := f
      path := String.ofList o.path.reverse
      conversion := o.conversion
      spec := spec.reverse })

/-- Reads the rest of a template. -/
def read [Field F] : Scan → List Char → List (Piece F)
  | .outside, [] => []
  | .outside, '{' :: '{' :: rest => .literal '{' :: read .outside rest
  | .outside, ['{'] => [.broken .loneOpen]
  | .outside, '{' :: rest => read (.name []) rest
  | .outside, '}' :: '}' :: rest => .literal '}' :: read .outside rest
  | .outside, '}' :: _ => [.broken .loneClose]
  | .outside, c :: rest => .literal c :: read .outside rest
  | .name _, [] => [.broken .unclosedField]
  | .name _, '{' :: _ => [.broken .openInName]
  | .name name, '}' :: rest =>
    match fieldOfName name.reverse with
    | .ok f => .field f :: read .outside rest
    | .error fault => [.broken fault]
  | .name name, '.' :: rest => read (.path ⟨name, ['.'], none⟩ false) rest
  | .name name, '[' :: rest => read (.path ⟨name, ['['], none⟩ true) rest
  | .name name, '!' :: rest => read (.conversion ⟨name, [], none⟩) rest
  | .name name, ':' :: rest => read (.spec ⟨name, [], none⟩ [] 1) rest
  | .name name, c :: rest => read (.name (c :: name)) rest
  | .path _ _, [] => [.extended (.error .unclosedField)]
  | .path o true, c :: rest => read (.path { o with path := c :: o.path } (c ≠ ']')) rest
  | .path _ false, '{' :: _ => [.extended (.error .openInName)]
  | .path o false, '}' :: rest => o.close [] :: read .outside rest
  | .path o false, '!' :: rest => read (.conversion o) rest
  | .path o false, ':' :: rest => read (.spec o [] 1) rest
  | .path o false, c :: rest => read (.path { o with path := c :: o.path } (c = '[')) rest
  | .conversion _, [] => [.extended (.error .missingConversion)]
  | .conversion o, c :: rest => read (.converted { o with conversion := some c }) rest
  | .converted _, [] => [.extended (.error .unclosedSpec)]
  | .converted o, '}' :: rest => o.close [] :: read .outside rest
  | .converted o, ':' :: rest => read (.spec o [] 1) rest
  | .converted _, _ :: _ => [.extended (.error .longConversion)]
  | .spec _ _ _, [] => [.extended (.error .unclosedSpec)]
  | .spec o spec depth, '{' :: rest => read (.spec o ('{' :: spec) (depth + 1)) rest
  | .spec o spec 1, '}' :: rest => o.close spec :: read .outside rest
  | .spec o spec depth, '}' :: rest => read (.spec o ('}' :: spec) (depth - 1)) rest
  | .spec o spec depth, c :: rest => read (.spec o (c :: spec) depth) rest

/-- The pieces of a template. -/
def pieces [Field F] (t : Template F) : List (Piece F) := read .outside t.source.toList

/-- Whether a piece is no extended placeholder. -/
def Piece.isPlain : Piece F → Bool
  | extended _ => false
  | _ => true

/-- The placeholders of the template are bare names. -/
def IsPlain [Field F] (t : Template F) : Prop := t.pieces.all Piece.isPlain = true

instance [Field F] (t : Template F) : Decidable t.IsPlain := inferInstanceAs (Decidable (_ = true))

/-! ## Filling -/

variable [Formatter]

/-- A piece with the value in its place. The specification of an extended placeholder is expanded if
there is a brace in it. -/
def Piece.fill (value : F → Value) (expand : List Char → Except Fault String) :
    Piece F → Except Fault String
  | literal c => .ok (String.singleton c)
  | field f => (value f).shown
  | broken fault => .error fault
  | extended (.error fault) => .error fault
  | extended (.ok e) => do
    let o ← Formatter.access (value e.field) e.path e.conversion
    let spec ← if '{' ∈ e.spec then expand e.spec else .ok (String.ofList e.spec)
    Formatter.layOut o spec

/-- The text of characters of a template, whose placeholders may be nested up to a depth. -/
def fillChars [Field F] (value : F → Value) : Nat → List Char → Except Fault String
  | 0, _ => .error .nestedTooDeep
  | depth + 1, s =>
    ((read .outside s).mapM (Piece.fill value (fillChars value depth))).map String.join

/-- The depth of a template with placeholders inside of specifications. -/
def maxDepth : Nat := 2

/-- The text of a template with the given values. -/
def fill [Field F] (t : Template F) (value : F → Value) : Except Fault String :=
  fillChars value maxDepth t.source.toList

end Template

end PerArity
