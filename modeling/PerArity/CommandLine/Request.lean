import PerArity.CommandLine.Argument
import PerArity.Config

/-!
# Reading a command line

The first operand is the command, and everything after it belongs to the command. Once the arguments
of a command have been judged they are taken from left to right: an option sets a field of the
settings, so the last one wins, and what nothing takes is left over.

A request for help ends the reading where it is met, and so does an option whose value is missing or
wrong. Arguments that are left over are reported only when everything else has been read.

## The separator as a value

Two dashes by themselves separate options from operands. Where they are attached to a flag they are
dropped all the same, and the option is given without a value. That is no misuse: nothing is left to
be checked, and the option can be given once more. It shows in the link, which is then empty
brackets; every other option is remembered as lacking its value.
-/

namespace PerArity.CommandLine

/-! ## How a reading ends -/

/-- Why no request was read. -/
inductive Stop where
  /-- Help was asked for. -/
  | help
  /-- There was no command. -/
  | noCommand
  /-- The arguments make no sense. -/
  | misuse (m : Misuse)
  deriving DecidableEq

/-- The command whose arguments are read. -/
inductive Scope where
  /-- The main command. -/
  | main
  /-- The command for a family. -/
  | family (f : Family)
  deriving DecidableEq

/-- Why no request was read, and at which command. -/
structure Halt where
  /-- The command. -/
  scope : Scope
  /-- The reason. -/
  stop : Stop
  deriving DecidableEq

/-! ## Settings -/

/-- The settings that options make. -/
structure Settings where
  /-- The bound on the arities. -/
  maxArity : Int
  /-- The target. -/
  target : Target := Target.flow
  /-- The output file as it was given. -/
  output : Option String := none
  /-- The directory that relative output paths are taken from. -/
  outputRoot : Path
  /-- The link of the banner. -/
  sourceUrl : String
  /-- Whether JSON is shown instead of code. -/
  json : Bool := false
  /-- Whether the banner is left out. -/
  noBanner : Bool := false
  /-- The options that were last given without a value. -/
  lacking : List Valued := []

/-- What separates options from operands. -/
def separator : String := "--"

namespace Settings

/-- Sets an option to a value. -/
def set (s : Settings) : Valued → String → Except Misuse Settings
  | .maxArity, text =>
    match Text.readInt? text with
    | some n => .ok { s with maxArity := n }
    | none => .error (.invalidInteger text)
  | .target, text =>
    match Target.ofName text with
    | .ok target => .ok { s with target := target }
    | .error _ => .error (.unknownTarget text)
  | .output, text => .ok { s with output := some text }
  | .outputRoot, text => .ok { s with outputRoot := Path.ofString text }
  | .sourceUrl, text => .ok { s with sourceUrl := text }

/-- Sets an option to no value. -/
def setToNothing (s : Settings) : Valued → Settings
  | .sourceUrl => { s with sourceUrl := "[]" }
  | v => { s with lacking := v :: s.lacking }

/-- Sets an option to the text given with it, which is no value if it is the separator. -/
def give (s : Settings) (v : Valued) (text : String) : Except Misuse Settings :=
  if text = separator then .ok (s.setToNothing v)
  else (s.set v text).map fun s' ↦ { s' with lacking := s'.lacking.filter (· ≠ v) }

/-- Turns an option on. -/
def turnOn (s : Settings) : Toggle → Settings
  | .json => { s with json := true }
  | .noBanner => { s with noBanner := true }

end Settings

/-! ## Flags that take no value -/

/-- Checks the letters attached to the flag of an option that takes no value: each is the letter of
another such option, up to one that takes a value, which is what follows the letter or the operand
after the argument. -/
def checkCluster (options : List Opt) (operandFollows : Bool) (option : Opt) :
    List Char → Except Misuse Unit
  | [] => .ok ()
  | c :: rest =>
    match Opt.ofFlag? options (String.ofList ['-', c]) with
    | none => .error (.unexpectedValue option (String.ofList (c :: rest)))
    | some (.valued v) =>
      if rest ≠ [] ∨ operandFollows = true then .ok () else .error (.missingValue v)
    | some next => checkCluster options operandFollows next rest

/-- Checks what is attached to a flag that takes no value: nothing, or, if the flag is short,
further letters. -/
def checkAttached (options : List Opt) (operandFollows : Bool) (flag : String) (option : Opt) :
    Option String → Except Misuse Unit
  | none => .ok ()
  | some text =>
    if "--".toList <+: flag.toList ∨ text = "" then .error (.unexpectedValue option text)
    else checkCluster options operandFollows option text.toList

/-! ## The main command -/

/-- The command with its arguments, if there is one, and what is left over before it. -/
structure Command where
  /-- The name of the command and its arguments. -/
  call : Option (String × List String)
  /-- The arguments before it that nothing takes. -/
  leftOver : List String

/-- Finds the command. All options of the main command are requests for help. -/
def findCommand : List Argument → Except Stop Command
  | [] => .ok ⟨none, []⟩
  | ⟨text, .operand⟩ :: rest => .ok ⟨some (text, rest.map (·.text)), []⟩
  | ⟨text, .unknown⟩ :: rest =>
    (findCommand rest).map fun c ↦ { c with leftOver := text :: c.leftOver }
  | ⟨_, .option flag option attached⟩ :: rest =>
    match checkAttached Opt.ofMain (Argument.startsWithOperand rest) flag option attached with
    | .error m => .error (.misuse m)
    | .ok () => .error .help

/-! ## The command for a family -/

/-- Takes the arguments of a command from left to right, and gives the settings and what is left
over. -/
def takeAll : Settings → List Argument → Except Stop (Settings × List String)
  | s, [] => .ok (s, [])
  | s, ⟨text, .operand⟩ :: rest => (takeAll s rest).map fun r ↦ (r.1, text :: r.2)
  | s, ⟨text, .unknown⟩ :: rest => (takeAll s rest).map fun r ↦ (r.1, text :: r.2)
  | s, ⟨_, .option _ (.valued v) (some text)⟩ :: rest =>
    match s.give v text with
    | .error m => .error (.misuse m)
    | .ok s' => takeAll s' rest
  | s, ⟨_, .option _ (.valued v) none⟩ :: ⟨text, .operand⟩ :: rest =>
    match s.give v text with
    | .error m => .error (.misuse m)
    | .ok s' => takeAll s' rest
  | _, ⟨_, .option _ (.valued v) none⟩ :: _ => .error (.misuse (.missingValue v))
  | s, ⟨_, .option flag (.toggle t) attached⟩ :: rest =>
    let operandFollows := Argument.startsWithOperand rest
    match checkAttached Opt.ofFamily operandFollows flag (.toggle t) attached with
    | .error m => .error (.misuse m)
    | .ok () => takeAll (s.turnOn t) rest
  | _, ⟨_, .option flag .help attached⟩ :: rest =>
    match checkAttached Opt.ofFamily (Argument.startsWithOperand rest) flag .help attached with
    | .error m => .error (.misuse m)
    | .ok () => .error .help

/-! ## The whole line -/

/-- What a command line asks for. -/
structure Request where
  /-- The family to generate. -/
  family : Family
  /-- The settings. -/
  settings : Settings

/-- The settings of a family when no option is given, in a working directory. -/
def Settings.default (directory : Path) (family : Family) : Settings where
  maxArity := family.defaultMaxArity
  outputRoot := directory
  sourceUrl := defaultSourceUrl

/-- Reads the arguments of the command for a family. -/
def readSettings (directory : Path) (family : Family) (texts : List String) :
    Except Stop (Settings × List String) :=
  match Argument.judgeAll Opt.ofFamily texts with
  | .error m => .error (.misuse m)
  | .ok arguments => takeAll (.default directory family) arguments

/-- Reads the arguments of the main command up to the command itself. -/
def readCommand (texts : List String) : Except Stop Command :=
  match Argument.judgeAll Opt.ofMain texts with
  | .error m => .error (.misuse m)
  | .ok arguments => findCommand arguments

/-- Reads a command line in a working directory. -/
def read (directory : Path) (texts : List String) : Except Halt Request :=
  match readCommand texts with
  | .error stop => .error ⟨.main, stop⟩
  | .ok ⟨none, []⟩ => .error ⟨.main, .noCommand⟩
  | .ok ⟨none, leftOver⟩ => .error ⟨.main, .misuse (.unrecognized leftOver)⟩
  | .ok ⟨some (name, arguments), before⟩ =>
    match Family.ofName? name with
    | none => .error ⟨.main, .misuse (.unknownCommand name)⟩
    | some family =>
      match readSettings directory family arguments with
      | .error stop => .error ⟨.family family, stop⟩
      | .ok (settings, after) =>
        if before ++ after = [] then .ok ⟨family, settings⟩
        else .error ⟨.main, .misuse (.unrecognized (before ++ after))⟩

end PerArity.CommandLine
