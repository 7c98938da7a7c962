import PerArity.CommandLine.Run
import PerArity.Formatting

/-!
# The program

The outer layer: arguments and working directory come from the process, texts go to its streams, and
a file is written to the disk. All decisions are taken by `PerArity.CommandLine.respond`.
-/

namespace PerArity.CommandLine

/-- The refusal with a number, if it is one of those that are expected here. -/
def refusalOfNumber? (number : Nat) : Option Refusal :=
  [Refusal.missing, .alreadyExists, .notDirectory, .isDirectory, .nameTooLong].find?
    (·.number == number)

/-- Why a run was broken off. -/
def Breakdown.message : Breakdown → String
  | lacking option => Misuse.about (.valued option) "no value"
  | ungenerated e => e.message
  | unrendered failure => failure.message
  | tooDeep => "too many directories are missing"
  | unencodable _ => "the text has no encoding"

/-- The report on a run that was broken off. -/
def Breakdown.report (b : Breakdown) : Report :=
  { exit := 1, stderr := "Error: " ++ b.message ++ "\n" }

/-- The wording of a failure on the disk that concerns a path. -/
def diskMessage (p : Path) (e : IO.Error) : String :=
  let number : Option Nat :=
    match e with
    | .alreadyExists _ code _ => some code.toNat
    | .noFileOrDirectory _ code _ => some code.toNat
    | .inappropriateType _ code _ => some code.toNat
    | .invalidArgument _ code _ => some code.toNat
    | .otherError code _ => some code.toNat
    | _ => none
  match number.bind refusalOfNumber? with
  | some refusal => refusal.message p
  | none => toString e

/-- Whether a path leads to a directory on the disk. -/
def isDirectoryOnDisk (p : Path) : IO Bool := (System.mkFilePath [p.toString]).isDir

/-- Why a file could not be written to the disk. -/
inductive DiskError where
  /-- The disk refused. -/
  | refused (message : String)
  /-- The run cannot go on. -/
  | broken (breakdown : Breakdown)

/-- The end of an attempt to make a directory that was refused, within a number of calls: no failure
if there is one. -/
def unlessDirectoryOnDisk (depth : Nat) (p : Path) (e : IO.Error) :
    IO (Except DiskError Unit) := do
  if Stack.ofProgram.overflows depth .check then return .error (.broken .tooDeep)
  if ← isDirectoryOnDisk p then return .ok ()
  return .error (.refused (diskMessage p e))

/-- Makes a directory on the disk and those above it, in the way of `Workspace.makeDirectoriesUp`,
within a number of calls on the stack of the program. The components come with the last one
first. -/
def makeDirectoriesOnDisk (anchor : Path.Anchor) (depth : Nat) :
    List String → IO (Except DiskError Unit)
  | [] => return .ok ()
  | name :: above => do
    let p : Path := ⟨anchor, (name :: above).reverse⟩
    if Stack.ofProgram.overflows depth .attempt then return .error (.broken .tooDeep)
    match ← (IO.FS.createDir p.toString).toBaseIO with
    | .ok () => return .ok ()
    | .error (.noFileOrDirectory ..) =>
      match ← makeDirectoriesOnDisk anchor (depth + 1) above with
      | .error e => return .error e
      | .ok () =>
        match ← (IO.FS.createDir p.toString).toBaseIO with
        | .ok () => return .ok ()
        | .error e => unlessDirectoryOnDisk (depth + 1) p e
    | .error e => unlessDirectoryOnDisk depth p e

/-- Writes a file to the disk. -/
def Delivery.toDisk (d : Delivery) : IO Report := do
  let directory := d.destination.parent
  let components := directory.components.reverse
  match ← makeDirectoriesOnDisk directory.anchor 1 components with
  | .error (.refused message) => return d.refused message
  | .error (.broken breakdown) => return breakdown.report
  | .ok () =>
    let text := d.content.encode
    -- the file is emptied also where the text has no encoding
    match ← (IO.FS.writeFile d.destination.toString (text.toOption.getD "")).toBaseIO, text with
    | .error e, _ => return d.refused (diskMessage d.destination e)
    | .ok (), .error place => return (Breakdown.unencodable place).report
    | .ok (), .ok _ => return d.written

/-- The report on a text for the terminal that has no encoding, and any other report as it is, with
the text on standard output. -/
def Report.encoded (r : Report) : Report × String :=
  match r.stdout.encode with
  | .ok text => (r, text)
  | .error place => ((Breakdown.unencodable place).report, "")

end PerArity.CommandLine

open PerArity in
/-- Runs the command line of the process. -/
def main (arguments : List String) : IO UInt32 := do
  let _ : Template.Formatter := .standard
  let directory := Path.ofString (← IO.currentDir).toString
  let response ← match CommandLine.respond directory arguments with
    | .print report => pure report
    | .deliver delivery => delivery.toDisk
    | .breakOff breakdown => pure breakdown.report
  let (report, stdout) := response.encoded
  (← IO.getStdout).putStr stdout
  (← IO.getStderr).putStr report.stderr
  return UInt32.ofNat report.exit
