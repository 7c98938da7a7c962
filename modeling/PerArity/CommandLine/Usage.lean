import PerArity.CommandLine.Request
import PerArity.Text.Fill

/-!
# Usage and help

Usage and help are laid out from the options and families themselves, for eighty columns of which
the last two stay empty. What follows the name of the program in a usage is filled into lines below
each other; in a help, remarks stand in a column of their own, on the line of what they are about if
that is short enough.
-/

namespace PerArity.CommandLine

/-- The columns that text may fill. -/
def lineWidth : Nat := 78

/-- The column in which remarks begin. -/
def remarkColumn : Nat := 24

/-- The name of the program. -/
def programName : String := "typedef-gen"

/-- What the program is for. -/
def description : String := "Generate per-arity type declarations for variadic functions"

/-- The list of all commands. -/
def commandChoices : String := "\x7b" ++ ",".intercalate (Family.all.map (·.name)) ++ "\x7d"

/-- A flag with the placeholder of its value. -/
def Opt.withPlaceholder (o : Opt) (flag : String) : String :=
  match o.placeholder? with
  | some placeholder => flag ++ " " ++ placeholder
  | none => flag

/-- An option in a usage, where its first flag stands for it. -/
def Opt.usagePart (o : Opt) : String := "[" ++ o.withPlaceholder (o.flags.headD "") ++ "]"

/-- An option at the head of its help. -/
def Opt.helpHeading (o : Opt) : String := ", ".intercalate (o.flags.map o.withPlaceholder)

namespace Scope

/-- The name under which a command is called. -/
def program : Scope → String
  | main => programName
  | family f => programName ++ " " ++ f.name

/-- What may follow the name of a command. -/
def usageParts : Scope → List String
  | main => Opt.ofMain.map (·.usagePart) ++ [commandChoices, "..."]
  | family _ => Opt.ofFamily.map (·.usagePart)

/-- The usage of a command. -/
def usage (s : Scope) : String :=
  let start := s!"usage: {s.program} "
  let lines := Text.fill (lineWidth - start.length) s.usageParts
  start ++ ("\n" ++ Text.blanks start.length).intercalate lines ++ "\n"

end Scope

/-- The lines about one thing: a heading, indented, and a remark in its column. -/
def helpEntry (indent : Nat) (heading remark : String) : List String :=
  let lines := Text.fill (lineWidth - remarkColumn) (Text.words remark)
  let column := lines.map (Text.blanks remarkColumn ++ ·)
  let start := Text.blanks indent ++ heading
  if start.length + 2 ≤ remarkColumn then
    match lines with
    | [] => [start]
    | line :: _ => (start ++ Text.blanks (remarkColumn - start.length) ++ line) :: column.tail
  else start :: column

namespace Scope

/-- The options of a command. -/
def options : Scope → List Opt
  | main => Opt.ofMain
  | family _ => Opt.ofFamily

/-- What the help of a command says about an option. -/
def remark (s : Scope) (o : Opt) : String :=
  match s with
  | main => o.summary
  | family f =>
    match o.shownDefault? f with
    | some value => o.summary ++ s!" (default: {value})"
    | none => o.summary

/-- The part of the help of a command that is about its options. -/
def optionsHelp (s : Scope) : List String :=
  "options:" :: s.options.flatMap fun o ↦ helpEntry 2 o.helpHeading (s.remark o)

/-- The lines of a help below the usage. -/
def helpLines : Scope → List String
  | main =>
    [description, "", "positional arguments:"] ++ helpEntry 2 commandChoices "Available generators"
      ++ Family.all.flatMap (fun f ↦ helpEntry 4 f.name f.summary)
      ++ "" :: optionsHelp main
  | family f => optionsHelp (family f)

/-- The help of a command. -/
def help (s : Scope) : String := s.usage ++ "\n" ++ "\n".intercalate s.helpLines ++ "\n"

end Scope

/-- The report of a misuse at a command. -/
def misuseReport (s : Scope) (m : Misuse) : String :=
  s.usage ++ s!"{s.program}: error: {m.message}\n"

end PerArity.CommandLine
