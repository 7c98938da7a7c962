import PerArity.Rendering
import PerArity.Workspace

/-!
# Writing declarations

A declaration is rendered first and then written, to a file whose directory is made when it is not
there. A relative path is taken from the output root of the settings, which may itself be relative
to the working directory; the path that is reported is the joined one.
-/

namespace PerArity

namespace Workspace

/-- Writes a text to a file and makes the directory for it. -/
def deliver (w : Workspace) (destination : Path) (content : RawText) : Attempt FileError Path :=
  let made := w.makeDirectories destination.parent
  match made.outcome with
  | .error e => ⟨made.workspace, .error e⟩
  | .ok () =>
    let written := made.workspace.writeFile destination content
    ⟨written.workspace, written.outcome.map fun () ↦ destination⟩

end Workspace

/-- The path that an output path stands for. -/
def Config.destination (config : Config) (output : Path) : Path := config.outputRoot.join output

/-- Why a declaration was not written. -/
inductive OutputError where
  /-- It has no text in the form that was asked for. -/
  | unrendered (failure : Json.Failure)
  /-- The text could not be written to the file. -/
  | unwritten (e : FileError)
  deriving DecidableEq

namespace Declaration

/-- Writes a declaration to a file. -/
def write (d : Declaration) (w : Workspace) (config : Config) (output : Path) (form : Form) :
    Attempt OutputError Path :=
  match d.render config form with
  | .error failure => ⟨w, .error (.unrendered failure)⟩
  | .ok content =>
    let delivered := w.deliver (config.destination output) content
    ⟨delivered.workspace, delivered.outcome.mapError .unwritten⟩

theorem write_of_render {d : Declaration} {config : Config} {form : Form} {content : RawText}
    (h : d.render config form = .ok content) (w : Workspace) (output : Path) :
    d.write w config output form =
      ⟨(w.deliver (config.destination output) content).workspace,
        (w.deliver (config.destination output) content).outcome.mapError .unwritten⟩ := by
  rw [write, h]

theorem write_of_unrendered {d : Declaration} {config : Config} {form : Form}
    {failure : Json.Failure} (h : d.render config form = .error failure) (w : Workspace)
    (output : Path) : d.write w config output form = ⟨w, .error (.unrendered failure)⟩ := by
  rw [write, h]

/-- The text on a stream after a declaration is written to it. -/
def emit (d : Declaration) (config : Config) (form : Form) (stream : RawText) :
    Except Json.Failure RawText :=
  (d.render config form).map (stream ++ ·)

end Declaration

end PerArity
