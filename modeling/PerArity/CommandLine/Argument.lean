import PerArity.CommandLine.Misuse
import PerArity.Text.Numeral

/-!
# What a single argument is

Before any argument takes effect, each is judged by itself: it is an operand, a flag with or without
a value attached to it, or something that looks like a flag but is none. Long flags may be
abbreviated to any beginning that no other flag shares. A value may be attached to any flag by an
equals sign, and to a short one also directly.

A negative number and a text with a blank in it are operands although they begin with a dash, unless
they happen to be flags.
-/

namespace PerArity.CommandLine

/-- What an argument is taken for. -/
inductive Reading where
  /-- A text that is no flag. -/
  | operand
  /-- A text like a flag that stands for no option. -/
  | unknown
  /-- A flag of an option, with the value attached to it. -/
  | option (flag : String) (option : Opt) (attached : Option String)
  deriving DecidableEq

/-- An argument and what it is taken for. -/
structure Argument where
  /-- The argument as it was given. -/
  text : String
  /-- What it is taken for. -/
  reading : Reading
  deriving DecidableEq

namespace Argument

/-- Splits a text at its first equals sign. -/
def splitAtEquals (s : List Char) : List Char × Option (List Char) :=
  match s.dropWhile (· ≠ '=') with
  | [] => (s, none)
  | _ :: value => (s.takeWhile (· ≠ '='), some value)

/-- The flags that a text can stand for, with what is attached to them, if it is no flag itself. -/
def candidates (options : List Opt) (s : List Char) : List Reading :=
  match s with
  | '-' :: '-' :: _ =>
    let (stem, attached) := splitAtEquals s
    (Opt.flagTable options).filterMap fun (flag, o) ↦
      if stem <+: flag.toList then some (.option flag o (attached.map String.ofList)) else none
  | '-' :: c :: attached =>
    (Opt.flagTable options).filterMap fun (flag, o) ↦
      if flag.toList = ['-', c] then some (.option flag o (some (String.ofList attached))) else none
  | _ => []

/-- The flag of a reading, if it is one. -/
def flag? : Reading → Option String
  | .option flag _ _ => some flag
  | _ => none

/-- Reads a text as a flag with a value after an equals sign. -/
def withValue? (options : List Opt) (s : List Char) : Option Reading :=
  match splitAtEquals s with
  | (_, none) => none
  | (stem, some value) =>
    (Opt.ofFlag? options (String.ofList stem)).map fun o ↦
      .option (String.ofList stem) o (some (String.ofList value))

/-- Judges an argument that begins with a dash, is longer than that and is no flag. -/
def judgeInexact (options : List Opt) (text : String) : Except Misuse Reading :=
  let s := text.toList
  match withValue? options s with
  | some reading => .ok reading
  | none =>
    match candidates options s with
    | [reading] => .ok reading
    | [] => if Text.isNegativeNumber s ∨ ' ' ∈ s then .ok .operand else .ok .unknown
    | several => .error (.ambiguous text (several.filterMap flag?))

/-- Judges an argument. -/
def judge (options : List Opt) (text : String) : Except Misuse Reading :=
  match Opt.ofFlag? options text with
  | some o => .ok (.option text o none)
  | none =>
    match text.toList with
    | '-' :: _ :: _ => judgeInexact options text
    | _ => .ok .operand

/-- Judges all arguments, up to the first that is ambiguous. -/
def judgeAll (options : List Opt) (texts : List String) : Except Misuse (List Argument) :=
  texts.mapM fun text ↦ (judge options text).map (⟨text, ·⟩)

/-- Whether the first of the arguments is an operand. -/
def startsWithOperand : List Argument → Bool
  | ⟨_, .operand⟩ :: _ => true
  | _ => false

end Argument

end PerArity.CommandLine
