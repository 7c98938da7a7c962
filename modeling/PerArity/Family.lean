import PerArity.Text.Raw

/-!
# Families of declarations

Three families of declarations can be generated, each with one or more fragments for every arity.
This module holds what is fixed for a family: the name under which it is asked for, the bound on the
arities that is used unless another is given, and the words with which a banner speaks of it.
-/

namespace PerArity

/-- A family of declarations, one part for every arity. -/
inductive Family where
  /-- The overloads of partial application. -/
  | partialApplication
  /-- The complement of a predicate. -/
  | complement
  /-- Test cases for the complement of a predicate. -/
  | complementTest
  deriving DecidableEq

namespace Family

/-- All families, in the order in which they are listed. -/
def all : List Family := [partialApplication, complement, complementTest]

/-- The name under which a family is asked for. -/
def name : Family → String
  | partialApplication => "partial"
  | complement => "complement"
  | complementTest => "complement-tests"

/-- The family of a name. -/
def ofName? (name : String) : Option Family := all.find? (·.name == name)

/-- The family whose name is a text. -/
def ofText? (name : RawText) : Option Family := all.find? fun f ↦ (f.name : RawText) == name

/-- The bound on the arities unless another is given. -/
def defaultMaxArity : Family → Int
  | partialApplication => 10
  | complement => 11
  | complementTest => 11

/-- What a banner calls the generated code. -/
def label : Family → String
  | partialApplication => "partial declaration"
  | complement => "complement declaration"
  | complementTest => "complement test cases"

/-- What a banner says that the type system is not able to do. -/
def reason : Family → String
  | partialApplication => "express partial application of a variadic function."
  | complement => "preserve the input function's form as a return type."
  | complementTest => "preserve the input function's form as a return type."

/-- One line on what a family generates. -/
def summary : Family → String
  | partialApplication => "Generate the overload intersection for partial application"
  | complement => "Generate one complement declaration per arity"
  | complementTest => "Generate type tests for the complement declarations"

theorem ofName?_eq_some_iff {s : String} {family : Family} :
    ofName? s = some family ↔ s = family.name := by
  constructor
  · intro h
    have hname := List.find?_some (p := fun f : Family ↦ f.name == s) h
    exact (beq_iff_eq.mp hname).symm
  · rintro rfl
    cases family <;> rfl

/-- The name of a family is found also among texts that need not be well formed. -/
theorem ofText?_name (family : Family) : ofText? family.name = some family := by
  cases family <;> decide

theorem name_inj {f g : Family} (h : f.name = g.name) : f = g := by
  have hfound := ofName?_eq_some_iff.mpr h
  rw [ofName?_eq_some_iff.mpr rfl] at hfound
  exact Option.some.inj hfound

end Family

end PerArity
