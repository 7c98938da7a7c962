import PerArity.Json

/-!
# Declarations

The outcome of a run is a declaration: the fragments of one family in output order, with what is
needed to put them together. Its text is the fragments joined by the separator; its JSON value shows
the fragments one by one and leaves the separator out.

A declaration need not come from a run, so any text may stand in it, and any integer.
-/

namespace PerArity

/-- The generated text for one arity, or for one split point. -/
structure Fragment where
  /-- The arity that the text is about. -/
  arity : Int
  /-- The generated text. -/
  text : RawText
  /-- The number of parameters given up front, where there are any. -/
  bound : Option Int := none
  deriving DecidableEq

/-- All fragments of one run. -/
structure Declaration where
  /-- The name of the family. -/
  kind : RawText
  /-- The name of the target. -/
  target : RawText
  /-- The bound that all arities stay below. -/
  maxArity : Int
  /-- What stands between two fragments. -/
  separator : RawText
  /-- The fragments in output order. -/
  fragments : List Fragment := []
  deriving DecidableEq

/-- The JSON value of a fragment, with a bound only where there is one. -/
def Fragment.toJson (f : Fragment) : Json :=
  .obj ([("arity", .int f.arity), ("text", .str f.text)] ++
    match f.bound with
    | some bound => [("bound", .int bound)]
    | none => [])

namespace Declaration

/-- The fragments joined by the separator. -/
def text (d : Declaration) : RawText := d.separator.intercalate (d.fragments.map (·.text))

/-- The JSON value of a declaration. -/
def toJson (d : Declaration) : Json :=
  .obj
    [("kind", .str d.kind), ("target", .str d.target), ("max_arity", .int d.maxArity),
      ("fragment_count", .int d.fragments.length),
      ("fragments", .arr (d.fragments.map Fragment.toJson))]

/-- The JSON text of a declaration with a number of blanks for each level of indentation. -/
def jsonOfWidth (d : Declaration) (width : Nat) : Except Json.Failure String :=
  d.toJson.pretty width

/-- The JSON text of a declaration with an indentation that was asked for. -/
def jsonText (d : Declaration) (indent : Int) : Except Json.Failure String :=
  Json.widthOfIndent indent >>= d.jsonOfWidth

/-- The blanks of one level of indentation where nothing else is asked for. -/
def defaultWidth : Nat := 2

end Declaration

end PerArity
