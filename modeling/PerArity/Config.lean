import PerArity.Path
import PerArity.Target
import PerArity.Text.Raw

/-!
# Settings of a run

What a run needs to know besides the family: the bound on the arities and the target, and, for what
is written around and outside of the generated code, the link of the banner and the directory that
relative output paths are taken from.
-/

namespace PerArity

/-- The link of the banner unless another is given. -/
def defaultSourceUrl : String := "https://github.com/LoganBarnett/typedef-gen"

/-- The settings of one run. -/
structure Config where
  /-- The bound that all arities stay below. -/
  maxArity : Int
  /-- The syntax that is generated. -/
  target : Target := Target.flow
  /-- The link of the banner. -/
  sourceUrl : RawText := defaultSourceUrl
  /-- The directory that relative output paths are taken from. -/
  outputRoot : Path

end PerArity
