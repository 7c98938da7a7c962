import PerArity.Error
import PerArity.Parameter
import PerArity.Template

/-!
# Target syntaxes

A target is the surface syntax of one static type system: templates for the pieces that differ
between type systems, separators, and the fixed words that generated code contains. Two are
registered, `Target.flow` and `Target.typescript`; any other value of the type works as well, so
nothing outside this module depends on which is in use.
-/

namespace PerArity

/-! ## The fields of the templates -/

/-- Fields of a constrained type parameter. -/
inductive BoundField where
  /-- The name of the parameter. -/
  | name
  /-- The type that it must be below. -/
  | bound

instance : Template.Field BoundField where
  named := [("name", .name), ("bound", .bound)]

/-- Fields of a parameter inside a function type. -/
inductive CallableField where
  /-- An identifier for the value. -/
  | value
  /-- The type of the value. -/
  | type

instance : Template.Field CallableField where
  named := [("value", .value), ("type", .type)]

/-- Fields of one signature of partial application. -/
inductive MemberField where
  /-- All type parameters that are declared. -/
  | typeParams
  /-- The parameters of the wrapped function. -/
  | allParams
  /-- The parameters given up front. -/
  | boundParams
  /-- The parameters of the resulting function. -/
  | remainingParams
  /-- The type parameter for the result. -/
  | ret

instance : Template.Field MemberField where
  named := [("type_params", .typeParams), ("all_params", .allParams),
    ("bound_params", .boundParams), ("remaining_params", .remainingParams), ("ret", .ret)]

/-- Fields of one complement declaration. -/
inductive ComplementField where
  /-- All type parameters that are declared. -/
  | typeParams
  /-- The type parameter for the predicate. -/
  | fn

instance : Template.Field ComplementField where
  named := [("type_params", .typeParams), ("fn", .fn)]

/-- Fields of one test case. -/
inductive TestField where
  /-- The position of the case. -/
  | index
  /-- The parameters of the predicate under test. -/
  | predicateParams
  /-- The arguments of the call that must be accepted. -/
  | callArgs
  /-- The lines about the call that must be rejected. -/
  | negativeCase

instance : Template.Field TestField where
  named := [("index", .index), ("predicate_params", .predicateParams), ("call_args", .callArgs),
    ("negative_case", .negativeCase)]

/-! ## Targets -/

/-- The syntax of one static type system. -/
structure Target where
  /-- The name by which the target is asked for. -/
  name : String
  /-- The name of the type system in prose. -/
  displayName : String
  /-- A type parameter with a bound. -/
  boundTemplate : Template BoundField
  /-- A parameter inside a function type. -/
  callableParamTemplate : Template CallableField
  /-- The beginning of a comment that reaches to the end of the line. -/
  commentPrefix : String := "//"
  /-- What stands between the members of an intersection. -/
  intersectionSeparator : String := " &\n"
  /-- What stands between declarations. -/
  declarationSeparator : String := "\n"
  /-- What stands between test cases. -/
  testSeparator : String := "\n"
  /-- The type parameter for a result. -/
  returnTypeParam : String := "R"
  /-- The type parameter for a predicate. -/
  predicateTypeParam : String := "Fn"
  /-- The comment that announces a type error on the next line. -/
  expectError : String := "// $ExpectError"
  /-- Whether a comma follows the last literal of a test case. -/
  trailingComma : Bool := false
  /-- The comment in place of a call that must be rejected. -/
  noNegativeCase : String := "// Extra arguments are discarded, so there is no negative case here."
  /-- A signature of partial application. -/
  partialMemberTemplate : Template MemberField :=
    ⟨"(<\x7btype_params\x7d>(\n  (...r: [\x7ball_params\x7d]) => \x7bret\x7d,\n" ++
      "  args: [\x7bbound_params\x7d],\n) => ((\x7bremaining_params\x7d) => \x7bret\x7d))"⟩
  /-- A complement declaration. -/
  complementDeclarationTemplate : Template ComplementField :=
    ⟨"\ndeclare function complement<\x7btype_params\x7d>(\n  f: \x7bfn\x7d\n): \x7bfn\x7d;"⟩
  /-- A test case for a complement declaration. -/
  complementTestTemplate : Template TestField :=
    ⟨"it('returns a function whose parameters match the input function (\x7bindex\x7d)', () => " ++
      "\x7b\x7b\n  const fn = complement((\x7bpredicate_params\x7d) => true)\n" ++
      "  fn(\x7bcall_args\x7d)\n\x7bnegative_case\x7d\n\x7d\x7d)\n"⟩

namespace Target

/-- The syntax of Flow. -/
def flow : Target where
  name := "flow"
  displayName := "Flow"
  boundTemplate := ⟨"\x7bname\x7d: \x7bbound\x7d"⟩
  callableParamTemplate := ⟨"\x7btype\x7d"⟩
  trailingComma := true

/-- The syntax of TypeScript, whose function types name their parameters. -/
def typescript : Target where
  name := "typescript"
  displayName := "TypeScript"
  boundTemplate := ⟨"\x7bname\x7d extends \x7bbound\x7d"⟩
  callableParamTemplate := ⟨"\x7bvalue\x7d: \x7btype\x7d"⟩
  expectError := "// @ts-expect-error"

/-- The registered targets. -/
def registered : List Target := [flow, typescript]

/-- The names of the registered targets. -/
def registeredNames : List String := registered.map (·.name)

/-- The registered target of a name. -/
def ofName (name : String) : Except Error Target :=
  match registered.find? (·.name == name) with
  | some target => .ok target
  | none => .error (.unknownTarget name registeredNames)

variable [Template.Formatter] (t : Target)

/-- A type parameter constrained by a type. -/
def bound (name bound : String) : Except Error String :=
  (t.boundTemplate.fill fun
    | .name => .text name
    | .bound => .text bound).mapError .template

/-- One parameter of a function type, whose value is named after its type. -/
def callableParam (name : String) : Except Error String :=
  (t.callableParamTemplate.fill fun
    | .value => .text (Text.lower name)
    | .type => .text name).mapError .template

/-- The parameters of a function type. Without names the template is not looked at. -/
def callableParams (names : List String) : Except Error String :=
  (names.mapM t.callableParam).map Parameter.commaSeparated

/-- Literal arguments, with a comma after the last one where the target wants it. -/
def literalList (items : List String) : String :=
  if t.trailingComma ∧ items ≠ [] then Parameter.commaSeparated items ++ ","
  else Parameter.commaSeparated items

end Target

end PerArity
