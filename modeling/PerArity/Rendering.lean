import PerArity.Config
import PerArity.Declaration
import PerArity.Family
import PerArity.Text.Blank

/-!
# Rendering declarations

A declaration is shown as JSON, as bare code, or as code between comment banners. The banner says
where the code comes from and why it has to be generated; its five lines are trimmed at their right
end, so an empty line is the comment prefix alone, whereas the line after the code is not trimmed.

A declaration need not come from a run, so its kind may be the name of no family. Then the kind
itself is the label.
-/

namespace PerArity

/-- How a declaration is shown. -/
inductive Form where
  /-- The fragments as JSON. -/
  | json
  /-- The code alone. -/
  | bare
  /-- The code between banners. -/
  | bannered
  deriving DecidableEq

/-- The form for two flags: with JSON the banner does not matter. -/
def Form.ofFlags (banner asJson : Bool) : Form :=
  if asJson then .json else if banner then .bannered else .bare

/-- A text of one line break. -/
def lineBreak : RawText := "\n"

namespace Declaration

variable (d : Declaration)

/-- What a banner calls the code. -/
def label : RawText :=
  match Family.ofText? d.kind with
  | some family => family.label
  | none => d.kind

/-- What a banner says that the type system is not able to do. -/
def reason : String :=
  match Family.ofText? d.kind with
  | some family => family.reason
  | none => "express this signature directly."

/-- What the lines of the opening banner say. -/
def bannerRemarks (config : Config) : List RawText :=
  ["The following code is generated from",
    config.sourceUrl ++ s!" due to {config.target.displayName} not being able to",
    d.reason,
    "",
    "Begin generated " ++ d.label ++ "."]

/-- The opening banner. -/
def banner (config : Config) : RawText :=
  lineBreak.intercalate ((d.bannerRemarks config).map fun remark ↦
    Text.trimRight (s!"{config.target.commentPrefix} " ++ remark))

/-- The closing banner. -/
def footer (config : Config) : RawText :=
  s!"{config.target.commentPrefix} End generated " ++ d.label ++ "."

/-- The text of a declaration in a form, with a line break at its end. -/
def render (config : Config) : Form → Except Json.Failure RawText
  | .json => (d.jsonOfWidth defaultWidth).map fun json ↦ json ++ lineBreak
  | .bare => .ok (d.text ++ lineBreak)
  | .bannered =>
    .ok (lineBreak.intercalate [d.banner config, d.text, d.footer config] ++ lineBreak)

end Declaration

end PerArity
