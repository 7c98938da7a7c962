import PerArity.CommandLine.Opt
import PerArity.Text.Quoted

/-!
# Misuse of the command line

The ways in which arguments can fail to make sense, and how each is reported.
-/

namespace PerArity.CommandLine

/-- Why a command line cannot be read. -/
inductive Misuse where
  /-- A command that does not exist. -/
  | unknownCommand (text : String)
  /-- A target that is not registered. -/
  | unknownTarget (text : String)
  /-- A bound on the arities that is no integer. -/
  | invalidInteger (text : String)
  /-- An option without the value that it takes. -/
  | missingValue (option : Valued)
  /-- A value for an option that takes none. -/
  | unexpectedValue (option : Opt) (text : String)
  /-- An abbreviation of several flags. -/
  | ambiguous (text : String) (flags : List String)
  /-- Arguments that nothing takes. -/
  | unrecognized (texts : List String)
  deriving DecidableEq

namespace Misuse

/-- A remark on one option. -/
def about (option : Opt) (text : String) : String := s!"argument {option.displayName}: {text}"

/-- The rejection of a text that is none of the choices. -/
def invalidChoice (text : String) (choices : List String) : String :=
  s!"invalid choice: {Text.quoted text} (choose from " ++
    ", ".intercalate (choices.map Text.quoted) ++ ")"

/-- The wording of a misuse. -/
def message : Misuse → String
  | unknownCommand text => "argument command: " ++ invalidChoice text (Family.all.map (·.name))
  | unknownTarget text => about (.valued .target) (invalidChoice text Target.registeredNames)
  | invalidInteger text => about (.valued .maxArity) s!"invalid int value: {Text.quoted text}"
  | missingValue option => about (.valued option) "expected one argument"
  | unexpectedValue option text => about option s!"ignored explicit argument {Text.quoted text}"
  | ambiguous text flags =>
    s!"ambiguous option: {text} could match " ++ ", ".intercalate flags
  | unrecognized texts => "unrecognized arguments: " ++ " ".intercalate texts

end Misuse

end PerArity.CommandLine
