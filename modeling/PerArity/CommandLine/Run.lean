import PerArity.CommandLine.Usage
import PerArity.Generation
import PerArity.Output

/-!
# Running a command line

A run is decided in two stages. `respond` reads the arguments and generates; it needs no files, and
its answer is either everything there is to print or one file that is to be written. `run` carries
the answer out in a workspace. Whoever works on real files carries out the same answer, and takes
the report of success or failure from it.

The exit code is zero after success and after help, two when the arguments make no sense, and one
when there is no command, when nothing can be generated and when the file cannot be written.
Standard output holds either help or a rendered declaration, and so only after success.

## Breaking off

Some things end a run without a report. An option that was given without a value breaks it off at
the point where the value is needed: the target and the bound before anything is generated, the
output file and the directory that it is taken from when there is something to write. A generation
may fail in a way that is not reported, and so may the rendering of its result. And a file may lie
below more missing directories than there is room for on the stack, or be given a text without an
encoding.
-/

namespace PerArity.CommandLine

variable [Template.Formatter]

/-! ## What is printed -/

/-- The exit code and the texts that a run prints. -/
structure Report where
  /-- The exit code. -/
  exit : Nat
  /-- The text on standard output. -/
  stdout : RawText := ""
  /-- The text on standard error. -/
  stderr : String := ""
  deriving DecidableEq

/-- Whether records of a level are shown. -/
def showsLevel : Level → Bool
  | .debug => false
  | .info => false
  | .warning => true
  | .error => true

/-- A record on a line. -/
def recordLine (r : Record) : String := s!"{r.level.name}: {r.message}\n"

/-- The records of a journal that are shown. -/
def journalText (records : List Record) : String :=
  String.join ((records.filter fun r ↦ showsLevel r.level).map recordLine)

/-- The report of a failure: a record on what was being done, and the reason. -/
def failure (earlier : List Record) (doing reason : String) : Report where
  exit := 1
  stderr :=
    journalText (earlier ++ [⟨.error, .commandLine, s!"{doing}: {reason}"⟩]) ++
      s!"Error: {reason}\n"

/-- The report on arguments that make no request. -/
def haltReport (h : Halt) : Report :=
  match h.stop with
  | .help => { exit := 0, stdout := h.scope.help }
  | .noCommand => { exit := 1, stderr := h.scope.help }
  | .misuse m => { exit := 2, stderr := misuseReport h.scope m }

/-! ## What is to be written -/

/-- A file to be written. -/
structure Delivery where
  /-- The output file as it was given. -/
  given : String
  /-- The path of the file. -/
  destination : Path
  /-- The text for the file. -/
  content : RawText
  /-- The number of fragments in it. -/
  count : Nat

namespace Delivery

/-- The report after the file was written. -/
def written (d : Delivery) : Report where
  exit := 0
  stderr := s!"Generated {d.count} fragments. Written to: {d.destination.toString}\n"

/-- The report when the file could not be written. -/
def refused (d : Delivery) (reason : String) : Report :=
  failure [] s!"Could not write {d.given}" reason

end Delivery

/-- Why a run ends without a report. -/
inductive Breakdown where
  /-- An option that is needed has no value. -/
  | lacking (option : Valued)
  /-- The generation failed in a way that is not reported. -/
  | ungenerated (e : Error)
  /-- What was generated cannot be rendered. -/
  | unrendered (failure : Json.Failure)
  /-- There is no room on the stack to make the directories. -/
  | tooDeep
  /-- What was to be written has no encoding. -/
  | unencodable (place : RawText.Unencodable)
  deriving DecidableEq

/-- What is to be done after the arguments were read and the code was generated. -/
inductive Response where
  /-- Nothing but to print. -/
  | print (report : Report)
  /-- To write a file and to report on that. -/
  | deliver (delivery : Delivery)
  /-- Nothing, because the run cannot go on. -/
  | breakOff (breakdown : Breakdown)

/-! ## Running -/

/-- The settings of the run that a request asks for. -/
def Request.config (r : Request) : Config where
  maxArity := r.settings.maxArity
  target := r.settings.target
  sourceUrl := r.settings.sourceUrl
  outputRoot := r.settings.outputRoot

/-- The form that a request asks for. -/
def Request.form (r : Request) : Form := Form.ofFlags (!r.settings.noBanner) r.settings.json

/-- The option without a value that keeps a declaration from being generated. -/
def Request.lackingBefore? (r : Request) : Option Valued :=
  [Valued.target, .maxArity].find? (· ∈ r.settings.lacking)

/-- The option without a value that keeps a declaration from being written. A directory is needed
only for a relative path. -/
def Request.lackingAfter? (r : Request) : Option Valued :=
  if .output ∈ r.settings.lacking then some .output
  else
    match r.settings.output with
    | none => none
    | some given =>
      if .outputRoot ∈ r.settings.lacking ∧ (Path.ofString given).isAbsolute = false then
        some .outputRoot
      else none

/-- What to do with a declaration that was rendered. -/
def Request.outputText (r : Request) (count : Nat) (content : RawText) : Response :=
  match r.settings.output with
  | none => .print { exit := 0, stdout := content }
  | some given =>
    .deliver {
      given := given
      destination := r.config.destination (Path.ofString given)
      content := content
      count := count }

/-- What to do with a declaration that was generated. -/
def Request.output (r : Request) (declaration : Declaration) : Response :=
  match r.lackingAfter? with
  | some option => .breakOff (.lacking option)
  | none =>
    match declaration.render r.config r.form with
    | .error failure => .breakOff (.unrendered failure)
    | .ok content => r.outputText declaration.fragments.length content

/-- Whether a failure to generate is reported. -/
def isReported : Error → Bool
  | .unsupportedParameter _ => true
  | .invalidArity _ => true
  | .unknownTarget _ _ => true
  | _ => false

/-- What a request leads to. -/
def Request.respond (r : Request) : Response :=
  match r.lackingBefore? with
  | some option => .breakOff (.lacking option)
  | none =>
    let generated := generate r.family.name r.config
    match generated.outcome with
    | .error e =>
      if isReported e then .print (failure generated.records "Generation failed" e.message)
      else .breakOff (.ungenerated e)
    | .ok declaration => r.output declaration

/-- What a command line leads to in a working directory. -/
def respond (directory : Path) (arguments : List String) : Response :=
  match read directory arguments with
  | .error halt => .print (haltReport halt)
  | .ok request => request.respond

/-- How a run ends and the workspace after it. -/
structure Result where
  /-- What was printed, or why nothing was. -/
  outcome : Except Breakdown Report
  /-- The workspace afterwards. -/
  workspace : Workspace

/-- Carries out a response in a workspace. -/
def Response.carryOut (w : Workspace) : Response → Result
  | print report => ⟨.ok report, w⟩
  | breakOff breakdown => ⟨.error breakdown, w⟩
  | deliver d =>
    let attempt := w.deliver d.destination d.content
    match attempt.outcome with
    | .ok _ => ⟨.ok d.written, attempt.workspace⟩
    | .error (.refused refusal p) => ⟨.ok (d.refused (refusal.message p)), attempt.workspace⟩
    | .error .tooDeep => ⟨.error .tooDeep, attempt.workspace⟩
    | .error (.unencodable place) => ⟨.error (.unencodable place), attempt.workspace⟩

/-- Runs a command line in a workspace. -/
def run (w : Workspace) (arguments : List String) : Result :=
  (respond w.path arguments).carryOut w

end PerArity.CommandLine
