import PerArity.Declaration
import PerArity.Family
import PerArity.Journal
import PerArity.SplitPoint
import PerArity.Target

/-!
# Test cases for complement declarations

A test case calls the complement of a predicate whose parameters have literal types: once with those
literals, which must be accepted, and once with numbers, which must be rejected. A function without
parameters accepts every call, so its test case says why there is nothing to reject.
-/

namespace PerArity.ComplementTest

variable [Template.Formatter]

/-- The parameters of the predicate, each typed as its own name. -/
def predicateParams (arity : Int) (target : Target) : Except Error String :=
  (Parameter.valueNames ⟨0, arity⟩).map fun values ↦
    target.literalList (values.map fun v ↦ s!"{v}: '{v}'")

/-- The literal arguments that match the parameters of the predicate. -/
def callArgs (arity : Int) (target : Target) : Except Error String :=
  (Parameter.valueNames ⟨0, arity⟩).map fun values ↦
    target.literalList (values.map fun v ↦ s!"'{v}'")

/-- The lines about the call that must be rejected. -/
def negativeCase (arity : Int) (target : Target) : String :=
  if arity = 0 then s!"  {target.noNegativeCase}"
  else
    let numbers := (IndexRange.mk 0 arity).toList.map fun i ↦ toString i
    s!"  {target.expectError}\n  fn({Parameter.commaSeparated numbers})"

/-- The test case for one arity, at a position of the suite. -/
def testCase (arity index : Int) (target : Target) : Except Error String := do
  let parameters ← predicateParams arity target
  let arguments ← callArgs arity target
  (target.complementTestTemplate.fill fun
    | .index => .number index
    | .predicateParams => .text parameters
    | .callArgs => .text arguments
    | .negativeCase => .text (negativeCase arity target)).mapError .template

/-- The fragment for one arity, whose position in the suite is the arity itself. -/
def fragment (target : Target) (arity : Int) : Except Error Fragment := do
  let text ← testCase arity arity target
  return { arity := arity, text := text }

/-- The test cases for all arities below a bound. -/
def declaration (maxArity : Int) (target : Target) : Logged Error Declaration := do
  let arities ← Logged.attempt (aritiesBelow maxArity)
  let fragments ← Logged.attempt (arities.traverse (fragment target))
  Logged.record ⟨.info, .complementTest, s!"Generated {fragments.length} complement test cases"⟩
  return {
    kind := Family.complementTest.name
    target := target.name
    maxArity := maxArity
    separator := target.testSeparator
    fragments := fragments }

end PerArity.ComplementTest
