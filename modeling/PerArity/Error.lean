import PerArity.Template

/-!
# What can go wrong in a generation

Every failure before anything is written is one of these causes. The wording stands in `message`
alone; what a command line or a journal reports is derived from the cause.

An integer in a wording has to be written first. If it has too many digits for that, then this
failure takes the place of the one that was to be reported (`Error.about`).
-/

namespace PerArity

/-- Why no declaration was generated. -/
inductive Error where
  /-- A parameter index without a letter. -/
  | unsupportedParameter (index : Int)
  /-- A negative bound on the arities. -/
  | invalidArity (maxArity : Int)
  /-- A target that is not registered, with the names of those that are. -/
  | unknownTarget (name : String) (registered : List String)
  /-- A family of declarations that does not exist. -/
  | unknownFamily (name : String)
  /-- A template that cannot be filled. -/
  | template (fault : Template.Fault)
  /-- A number that a message was to name has too many digits. -/
  | tooManyDigits
  deriving DecidableEq

namespace Error

/-- An error that names an integer. Where that cannot be written, this is the error. -/
def about (n : Int) (e : Error) : Error := if Text.IsPrintable n then e else .tooManyDigits

/-- The digits of an integer for a message. -/
def digits (n : Int) : Except Error String :=
  match Text.decimal? n with
  | some s => .ok s
  | none => .error .tooManyDigits

/-- The wording of an error. -/
def message : Error → String
  | unsupportedParameter index => s!"Parameter index {index} is outside 0-25"
  | invalidArity maxArity => s!"Maximum arity must be >= 0, got {maxArity}"
  | unknownTarget name registered =>
    s!"Unknown target '{name}', expected one of: " ++ ", ".intercalate registered
  | unknownFamily name => s!"Unknown generator: {name}"
  | template fault => fault.message
  | tooManyDigits => Text.digitLimitMessage

variable {n : Int}

theorem about_eq (h : Text.IsPrintable n) (e : Error) : about n e = e := by
  rw [about, if_pos h]

theorem about_eq_tooManyDigits (h : ¬Text.IsPrintable n) (e : Error) :
    about n e = .tooManyDigits := by
  rw [about, if_neg h]

theorem digits_eq_ok (h : Text.IsPrintable n) : digits n = .ok (toString n) := by
  rw [digits, Text.decimal?_eq_some h]

theorem digits_eq_error (h : ¬Text.IsPrintable n) : digits n = .error .tooManyDigits := by
  rw [digits, Text.decimal?_eq_none h]

end Error

end PerArity
