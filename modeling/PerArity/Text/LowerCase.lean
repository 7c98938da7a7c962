import PerArity.Text.LetterCase

/-!
# Lower case

Example values carry the name of their type parameter in lower case. Almost every capital has a
small letter of its own. The dotted I becomes two characters, and the small sigma has a form of its
own at the end of a word: where the nearest character before it has a case and the nearest one after
it has none. Characters that have no bearing on case, such as accents and apostrophes, are passed
over on both sides.
-/

namespace PerArity.Text

/-- Whether the nearest character that is not passed over has a case. -/
def meetsCase (s : List Char) : Bool := (s.find? (!isCaseIgnorable ·)).any isCased

/-- A character in lower case, given what stands before it, the nearest first, and after it. -/
def lowerAt (before : List Char) (c : Char) (after : List Char) : List Char :=
  if c = '\u03A3' then [if meetsCase before && !meetsCase after then '\u03C2' else '\u03C3']
  else if c = '\u0130' then ['i', '\u0307']
  else [lowerChar c]

/-- The rest of a text in lower case, given what stands before it, the nearest first. -/
def lowerFrom (before : List Char) : List Char → List Char
  | [] => []
  | c :: after => lowerAt before c after ++ lowerFrom (c :: before) after

/-- A text in lower case. -/
def lower (s : String) : String := String.ofList (lowerFrom [] s.toList)

@[simp] theorem toList_lower (s : String) : (lower s).toList = lowerFrom [] s.toList := by
  simp [lower]

/-- A capital by itself, other than the two that depend on more, has a small letter. -/
theorem lower_singleton {c : Char} (hsigma : c ≠ '\u03A3') (hdotted : c ≠ '\u0130') :
    lower (String.singleton c) = String.singleton (lowerChar c) := by
  rw [← String.toList_inj, toList_lower, String.toList_singleton, String.toList_singleton,
    lowerFrom, lowerAt, if_neg hsigma, if_neg hdotted]
  rfl

end PerArity.Text
