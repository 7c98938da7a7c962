import PerArity.Declaration
import PerArity.Family
import PerArity.Journal
import PerArity.SplitPoint
import PerArity.Target

/-!
# Partial application

Calling a function with some of its arguments gives a function of the others. Its type is an
intersection with one member for every split point: the wrapped function takes all parameters, the
list of arguments holds those given up front, and the result takes the rest.

All names are made before a template is filled, in the order in which the parameters of the member
are read: all of them, those given up front, the remaining ones.
-/

namespace PerArity.PartialApplication

variable [Template.Formatter]

/-- The signature for one split point. -/
def member (point : SplitPoint) (target : Target) : Except Error String := do
  let all ← Parameter.names ⟨0, point.arity⟩
  let given ← Parameter.names ⟨0, point.bound⟩
  let others ← Parameter.names ⟨point.bound, point.arity⟩
  let remaining ← target.callableParams others
  (target.partialMemberTemplate.fill fun
    | .typeParams => .text (Parameter.commaSeparated (all ++ [target.returnTypeParam]))
    | .allParams => .text (Parameter.commaSeparated all)
    | .boundParams => .text (Parameter.commaSeparated given)
    | .remainingParams => .text remaining
    | .ret => .text target.returnTypeParam).mapError .template

/-- The fragment for one split point. -/
def fragment (target : Target) (point : SplitPoint) : Except Error Fragment := do
  let text ← member point target
  return { arity := point.arity, text := text, bound := some point.bound }

/-- The intersection over all split points of the arities below a bound. -/
def declaration (maxArity : Int) (target : Target) : Logged Error Declaration := do
  let points ← Logged.attempt (SplitPoint.below maxArity)
  let bound ← Logged.attempt (Error.digits maxArity)
  Logged.record ⟨.debug, .enumeration,
    s!"Enumerated {points.length} split points below arity {bound}"⟩
  let fragments ← Logged.attempt (points.mapM (fragment target))
  Logged.record ⟨.info, .partialApplication,
    s!"Generated {fragments.length} partial signatures for {target.name}"⟩
  return {
    kind := Family.partialApplication.name
    target := target.name
    maxArity := maxArity
    separator := target.intersectionSeparator
    fragments := fragments }

end PerArity.PartialApplication
