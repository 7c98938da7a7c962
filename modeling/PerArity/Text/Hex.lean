/-!
# Hexadecimal digits of fixed width

Escapes name a character by its code point in lower-case hexadecimal, filled up with zeros.
-/

namespace PerArity.Text

/-- The last `width` hexadecimal digits of `n`. -/
def hexDigits : Nat → Nat → List Char
  | 0, _ => []
  | width + 1, n => hexDigits width (n / 16) ++ [Nat.digitChar (n % 16)]

end PerArity.Text
