/-!
# Paths

A path is an anchor and the components below it. Reading a path drops empty and single-dot
components, which name nothing of their own; a double-dot component stays, because what it names
depends on the tree. A text that begins with exactly two slashes has an anchor of its own, any other
number of leading slashes is the root.
-/

namespace PerArity

/-- Where the components of a path start. -/
inductive Path.Anchor where
  /-- The place that relative paths are taken from. -/
  | relative
  /-- The root. -/
  | root
  /-- The root, written with two slashes. -/
  | doubleRoot
  deriving DecidableEq

/-- A path in a file tree. -/
structure Path where
  /-- Where the components start. -/
  anchor : Path.Anchor
  /-- The names on the way down, where a double dot is the way up. -/
  components : List String
  deriving DecidableEq

namespace Path

/-- The written form of an anchor. -/
def Anchor.text : Anchor → String
  | relative => ""
  | root => "/"
  | doubleRoot => "//"

/-- The anchor of a text, by the number of slashes that it begins with. -/
def Anchor.ofChars (s : List Char) : Anchor :=
  match (s.takeWhile (· == '/')).length with
  | 0 => .relative
  | 2 => .doubleRoot
  | _ => .root

/-- Reads a path. -/
def ofString (s : String) : Path where
  anchor := .ofChars s.toList
  components := ((s.toList.splitOn '/').filter fun c ↦ c ≠ [] ∧ c ≠ ['.']).map String.ofList

/-- The written form of a path. The relative path without components is a single dot. -/
protected def toString (p : Path) : String :=
  if p.anchor = .relative ∧ p.components = [] then "."
  else p.anchor.text ++ "/".intercalate p.components

instance : ToString Path := ⟨Path.toString⟩

/-- Whether a path starts at the root. -/
def isAbsolute (p : Path) : Bool := p.anchor ≠ .relative

/-- A path taken from another one; an absolute path stands by itself. -/
def join (base p : Path) : Path :=
  if p.isAbsolute then p else { base with components := base.components ++ p.components }

/-- A path without its last component, if it has one. -/
def parent (p : Path) : Path := { p with components := p.components.dropLast }

end Path

end PerArity
