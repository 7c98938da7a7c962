import PerArity.Text.CharRange
import PerArity.Text.Raw

/-!
# White space

Blank characters in the sense of the Unicode property, with the four information separators
U+001C to U+001F. The zero-width characters U+200B and U+FEFF are not blank. Banner lines are
trimmed at their right end by this class, and numerals may be surrounded by most of it.
-/

namespace PerArity.Text

/-- The blank characters. -/
def blankRanges : List CharRange :=
  [⟨0x09, 0x0D⟩, ⟨0x1C, 0x20⟩, ⟨0x85, 0x85⟩, ⟨0xA0, 0xA0⟩, ⟨0x1680, 0x1680⟩, ⟨0x2000, 0x200A⟩,
    ⟨0x2028, 0x2029⟩, ⟨0x202F, 0x202F⟩, ⟨0x205F, 0x205F⟩, ⟨0x3000, 0x3000⟩]

/-- Whether a character is white space. -/
def isBlank (c : Char) : Bool := inRanges blankRanges c

/-- Whether a code point is white space. -/
def isBlankPoint : CodePoint → Bool
  | .char c => isBlank c
  | .surrogate _ => false

/-- A list without the longest run at its end on which `p` holds. -/
def dropTrailing {α : Type} (p : α → Bool) (l : List α) : List α := (l.reverse.dropWhile p).reverse

/-- A text without the white space at its right end. -/
def trimRight (s : RawText) : RawText := dropTrailing isBlankPoint s

theorem isPrefix_dropTrailing {α : Type} (p : α → Bool) (l : List α) : dropTrailing p l <+: l := by
  rw [dropTrailing, ← List.reverse_suffix, List.reverse_reverse]
  exact List.dropWhile_suffix p

end PerArity.Text
