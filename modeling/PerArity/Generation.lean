import PerArity.Config
import PerArity.Family.Complement
import PerArity.Family.ComplementTest
import PerArity.Family.PartialApplication

/-!
# Generating a family

A run asks for a family by name. An unknown name fails before anything else is looked at and leaves
no record; otherwise the journal begins with what is about to be generated, which names the bound on
the arities and so fails if that cannot be written.
-/

namespace PerArity

variable [Template.Formatter]

/-- The declaration of a family for all arities below a bound. -/
def Family.declaration : Family → Int → Target → Logged Error Declaration
  | partialApplication => PartialApplication.declaration
  | complement => Complement.declaration
  | complementTest => ComplementTest.declaration

/-- Runs the family of a name. -/
def generate (name : String) (config : Config) : Logged Error Declaration :=
  match Family.ofName? name with
  | none => Logged.fail (.unknownFamily name)
  | some family => do
    let bound ← Logged.attempt (Error.digits config.maxArity)
    Logged.record ⟨.info, .dispatch,
      s!"Generating {name} for {config.target.name} up to arity {bound}"⟩
    family.declaration config.maxArity config.target

end PerArity
