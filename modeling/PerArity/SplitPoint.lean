import PerArity.Error
import PerArity.IndexRange

/-!
# Arities and split points

A family covers the arities below a bound. A function of some arity can be given any positive number
of its arguments up front, up to all of them; a split point is an arity with such a number. They are
listed by ascending arity and, within an arity, by ascending number of arguments given.
-/

namespace PerArity

/-- The arities below a bound, which must not be negative. -/
def aritiesBelow (maxArity : Int) : Except Error IndexRange :=
  if maxArity < 0 then .error (.about maxArity (.invalidArity maxArity)) else .ok ⟨0, maxArity⟩

/-- A way of splitting the parameters of a function: those given up front and the others. -/
structure SplitPoint where
  /-- The number of all parameters. -/
  arity : Int
  /-- The number of parameters given up front. -/
  bound : Int
  deriving DecidableEq

namespace SplitPoint

/-- The number of parameters that are still to be given. -/
def remaining (p : SplitPoint) : Int := p.arity - p.bound

/-- The split points of one arity. -/
def ofArity (arity : Int) : List SplitPoint := (IndexRange.mk 1 (arity + 1)).toList.map (⟨arity, ·⟩)

/-- The split points of all arities below a bound. -/
def below (maxArity : Int) : Except Error (List SplitPoint) :=
  (aritiesBelow maxArity).map fun arities ↦ arities.toList.flatMap ofArity

end SplitPoint

end PerArity
