import PerArity.Family
import PerArity.Target

/-!
# The options of the command line

The main command knows the request for help alone; a command that generates a family knows all
options. An option is written with any of its flags, the long ones with two dashes and the short
ones with one dash and a letter, and may take a value.
-/

namespace PerArity.CommandLine

/-- An option that takes a value. -/
inductive Valued where
  /-- The bound on the arities. -/
  | maxArity
  /-- The target. -/
  | target
  /-- The output file. -/
  | output
  /-- The directory that relative output paths are taken from. -/
  | outputRoot
  /-- The link of the banner. -/
  | sourceUrl
  deriving DecidableEq

/-- An option that is on when it is given. -/
inductive Toggle where
  /-- Show JSON instead of code. -/
  | json
  /-- Leave the banner out. -/
  | noBanner
  deriving DecidableEq

/-- An option of the command line. -/
inductive Opt where
  /-- A request for help. -/
  | help
  /-- An option that takes a value. -/
  | valued (v : Valued)
  /-- An option without a value. -/
  | toggle (t : Toggle)
  deriving DecidableEq

namespace Opt

/-- The options of the main command. -/
def ofMain : List Opt := [help]

/-- The options of a command that generates a family. -/
def ofFamily : List Opt :=
  [help, valued .maxArity, valued .target, valued .output, valued .outputRoot, valued .sourceUrl,
    toggle .json, toggle .noBanner]

/-- The flags of an option, the one that usage texts show first. -/
def flags : Opt → List String
  | help => ["-h", "--help"]
  | valued .maxArity => ["--max-arity", "-n"]
  | valued .target => ["--target", "-t"]
  | valued .output => ["--output", "-o"]
  | valued .outputRoot => ["--output-root"]
  | valued .sourceUrl => ["--source-url"]
  | toggle .json => ["--json"]
  | toggle .noBanner => ["--no-banner"]

/-- The name of an option in messages. -/
def displayName (o : Opt) : String := "/".intercalate o.flags

/-- What stands for the value of an option in usage texts. -/
def placeholder? : Opt → Option String
  | valued .maxArity => some "MAX_ARITY"
  | valued .target => some ("\x7b" ++ ",".intercalate Target.registeredNames ++ "\x7d")
  | valued .output => some "OUTPUT"
  | valued .outputRoot => some "OUTPUT_ROOT"
  | valued .sourceUrl => some "SOURCE_URL"
  | _ => none

/-- What a help says about an option. -/
def summary : Opt → String
  | help => "show this help message and exit"
  | valued .maxArity => "Generate arities below this value"
  | valued .target => "Type system syntax to emit"
  | valued .output => "Write to this file instead of stdout"
  | valued .outputRoot => "Directory relative output paths resolve against"
  | valued .sourceUrl => "Project link quoted in the banner comment"
  | toggle .json => "Output the fragments as JSON instead of code"
  | toggle .noBanner => "Omit the begin/end banner comments"

/-- What a help gives as the value of an option that is not given, at the command for a family. -/
def shownDefault? (family : Family) : Opt → Option String
  | valued .maxArity => some (toString family.defaultMaxArity)
  | valued .target => some Target.flow.name
  | valued .outputRoot => some "cwd"
  | _ => none

/-- All flags of some options, each with its option. -/
def flagTable (options : List Opt) : List (String × Opt) :=
  options.flatMap fun o ↦ o.flags.map fun flag ↦ (flag, o)

/-- The option of a flag. -/
def ofFlag? (options : List Opt) (flag : String) : Option Opt := (flagTable options).lookup flag

end Opt

end PerArity.CommandLine
