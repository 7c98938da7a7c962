import PerArity.Declaration
import PerArity.Family
import PerArity.Journal
import PerArity.SplitPoint
import PerArity.Target

/-!
# Complement declarations

The complement of a predicate has the predicate's own type, so its declaration has a type parameter
for the predicate, bounded by the functions from the letter parameters to truth values, and returns
that parameter unchanged. There is one declaration for every arity.
-/

namespace PerArity.Complement

variable [Template.Formatter]

/-- The declaration for one arity. -/
def declare (arity : Int) (target : Target) : Except Error String := do
  let names ← Parameter.names ⟨0, arity⟩
  let parameters ← target.callableParams names
  let fn ← target.bound target.predicateTypeParam s!"({parameters}) => boolean"
  (target.complementDeclarationTemplate.fill fun
    | .typeParams => .text (Parameter.commaSeparated (names ++ [fn]))
    | .fn => .text target.predicateTypeParam).mapError .template

/-- The fragment for one arity. -/
def fragment (target : Target) (arity : Int) : Except Error Fragment := do
  let text ← declare arity target
  return { arity := arity, text := text }

/-- The declarations for all arities below a bound. -/
def declaration (maxArity : Int) (target : Target) : Logged Error Declaration := do
  let arities ← Logged.attempt (aritiesBelow maxArity)
  let fragments ← Logged.attempt (arities.traverse (fragment target))
  Logged.record ⟨.info, .complement, s!"Generated {fragments.length} complement declarations"⟩
  return {
    kind := Family.complement.name
    target := target.name
    maxArity := maxArity
    separator := target.declarationSeparator
    fragments := fragments }

end PerArity.Complement
